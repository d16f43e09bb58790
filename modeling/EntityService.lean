import EntityService.Main
import EntityService.Proofs.Wording
import EntityService.Proofs.FirstFault
import EntityService.Proofs.LowerCase
import EntityService.Proofs.Resources
import EntityService.Proofs.ModuleNames
import EntityService.Proofs.TopLevel
import EntityService.Proofs.AttributeNames
import EntityService.Proofs.AttributeShape
import EntityService.Proofs.RowValues
import EntityService.Proofs.MemberLookup
import EntityService.Proofs.NameCharacters
import EntityService.Proofs.AttributeSearch
import EntityService.Proofs.LiteralReading
import EntityService.Proofs.SourceLines
import EntityService.Proofs.EmbeddedLiterals
import EntityService.Proofs.Tokens
import EntityService.Proofs.ArgumentReading
import EntityService.Proofs.HandlerScope
import EntityService.Proofs.Routing
import EntityService.Proofs.FileEffects
import EntityService.Proofs.ModelRecovery
import EntityService.Proofs.RunEffects
import EntityService.Proofs.DirectoryWay
import EntityService.Proofs.RunHistory
import EntityService.Proofs.MemberOrder
import EntityService.Proofs.IgnoredMembers
import EntityService.Proofs.PrintedText
import EntityService.Proofs.PrintedValue
import EntityService.Proofs.ShapeComplaint
import EntityService.Proofs.ColumnLists
import EntityService.Proofs.StatementText
import EntityService.Proofs.StatementReading
import EntityService.Proofs.BindingText
import EntityService.Proofs.Verbosity
import EntityService.Proofs.AttributeIdentifiers
import EntityService.Proofs.ManifestNames
import EntityService.Proofs.ProjectFolders
import EntityService.Proofs.RenderingFaults
import EntityService.Proofs.UpdatePath
import EntityService.Proofs.ClassScope
import EntityService.Proofs.NormalForms
import EntityService.Proofs.FormatterStart
