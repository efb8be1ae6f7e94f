import Mathlib.Data.List.Basic
import PrefAccessors.Wrapper.StringLiteral

/-! # String literals read back

The literal of a text is scanned as that text, whatever stands behind it: every
character is escaped so that the scanner neither stops at it nor misreads it.
-/

namespace PrefAccessors.Wrapper

/-- A character that neither ends a literal nor begins an escape is read as itself. -/
theorem scanLiteralBody?_plain {char : Char} (hchar : char ∉ ['"', '\\', '\n', '\r'])
    (rest : List Char) :
    scanLiteralBody? (char :: rest) =
      (scanLiteralBody? rest).map fun scanned => (char :: scanned.1, scanned.2) := by
  simp only [List.mem_cons, List.not_mem_nil, or_false, not_or] at hchar
  obtain ⟨hquote, hbackslash, hfeed, hreturn⟩ := hchar
  conv_lhs => unfold scanLiteralBody?
  split
  next heq => cases heq
  next heq => exact absurd (List.cons.inj heq).1 hbackslash
  next heq =>
    obtain ⟨rfl, rfl⟩ := List.cons.inj heq
    have hstop : ¬(char = '\\' ∨ char = '\n' ∨ char = '\r') := by
      rintro (heq | heq | heq)
      · exact hbackslash heq
      · exact hfeed heq
      · exact hreturn heq
    rw [if_neg hquote, if_neg hstop]

theorem scanLiteralBody?_escapeChar (char : Char) (rest : List Char) :
    scanLiteralBody? (escapeChar char ++ rest) =
      (scanLiteralBody? rest).map fun scanned => (char :: scanned.1, scanned.2) := by
  unfold escapeChar
  split
  case h_6 hquote hbackslash hfeed hreturn _ =>
    have hplain : char ∉ ['"', '\\', '\n', '\r'] := by
      simp only [List.mem_cons, List.not_mem_nil, or_false, not_or]
      exact ⟨hquote, hbackslash, hfeed, hreturn⟩
    exact scanLiteralBody?_plain hplain rest
  all_goals rfl

/-- The literal of a text is read as the text and ends where it ends. -/
theorem scanLiteral?_literalChars (text rest : List Char) :
    scanLiteral? (literalChars text ++ rest) = some (text, rest) := by
  change scanLiteralBody? (text.flatMap escapeChar ++ ['"'] ++ rest) = _
  rw [List.append_assoc]
  induction text with
  | nil => rfl
  | cons char text ih =>
    rw [List.flatMap_cons, List.append_assoc, scanLiteralBody?_escapeChar, ih, Option.map_some]

end PrefAccessors.Wrapper
