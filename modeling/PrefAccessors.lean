import PrefAccessors.CommandLine
import PrefAccessors.Declaration.Forest
import PrefAccessors.Declaration.Writing
import PrefAccessors.Main
import PrefAccessors.Markup.Lexing
import PrefAccessors.Sample
import PrefAccessors.Proofs.ForestReading
import PrefAccessors.Proofs.TagText
import PrefAccessors.Proofs.WrittenDeclarations
import PrefAccessors.Proofs.AsciiNames
import PrefAccessors.Proofs.MethodSignatures
import PrefAccessors.Proofs.StatementReading
import PrefAccessors.Proofs.StoreRuns
import PrefAccessors.Proofs.GroupResolution
import PrefAccessors.Proofs.HiddenProblems
import PrefAccessors.Proofs.RunResults
import PrefAccessors.Proofs.OutputDirectories
import PrefAccessors.Proofs.ClassLayout
import PrefAccessors.Proofs.OpenElements
import PrefAccessors.Proofs.TextBeginnings
import PrefAccessors.Proofs.DocumentBeginnings
import PrefAccessors.Proofs.ElementContent
import PrefAccessors.Proofs.EntryDefaults
import PrefAccessors.Proofs.FaultyAttributes
import PrefAccessors.Proofs.MethodNames
import PrefAccessors.Proofs.SampleDocuments
import PrefAccessors.Proofs.WrittenFallbacks
import PrefAccessors.Proofs.BatchChecks
import PrefAccessors.Proofs.BatchProblems
import PrefAccessors.Proofs.EntryOrder
import PrefAccessors.Proofs.CollidingNames
import PrefAccessors.Proofs.RunLogs
import PrefAccessors.Proofs.ValidNames
import PrefAccessors.Proofs.JoinedNames
import PrefAccessors.Proofs.DocComments
import PrefAccessors.Proofs.UnicodeEscapes
import PrefAccessors.Proofs.SharedKeys
import PrefAccessors.Proofs.ClassImports
import PrefAccessors.Proofs.ReceiverNames
import PrefAccessors.Proofs.Indentation
import PrefAccessors.Proofs.AttributeOrder
import PrefAccessors.Proofs.LiteralEnds
