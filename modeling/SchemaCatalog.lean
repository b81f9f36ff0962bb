import SchemaCatalog.Catalog.Owner
import SchemaCatalog.Main
import SchemaCatalog.Proofs.Calls
import SchemaCatalog.Proofs.Cycles
import SchemaCatalog.Proofs.Negation
import SchemaCatalog.Proofs.Ordering
import SchemaCatalog.Proofs.Failures
import SchemaCatalog.Proofs.Atomicity
import SchemaCatalog.Proofs.SchemaRenaming
import SchemaCatalog.Proofs.Spelling
import SchemaCatalog.Proofs.Independence
import SchemaCatalog.Proofs.Comments
import SchemaCatalog.Proofs.Revocation
import SchemaCatalog.Proofs.Repetition
import SchemaCatalog.Proofs.KnownRoles
import SchemaCatalog.Proofs.LengthSearch
import SchemaCatalog.Proofs.TableLifetime
import SchemaCatalog.Proofs.TableRemoval
import SchemaCatalog.Proofs.SchemaRemoval
import SchemaCatalog.Proofs.TableDropping
import SchemaCatalog.Proofs.TableRenaming
import SchemaCatalog.Proofs.CheckRearrangement
import SchemaCatalog.Proofs.TokenLanguage
import SchemaCatalog.Proofs.MaintenanceGrammar
import SchemaCatalog.Proofs.MutualNullability
import SchemaCatalog.Proofs.Depth
import SchemaCatalog.Proofs.Overloads
import SchemaCatalog.Proofs.PrimaryKeys
import SchemaCatalog.Proofs.IndexNames
import SchemaCatalog.Proofs.GrantReversal
import SchemaCatalog.Proofs.Splitting
import SchemaCatalog.Proofs.QuotedNames
import SchemaCatalog.Proofs.TokenSpans
import SchemaCatalog.Proofs.DropGrammar
import SchemaCatalog.Proofs.TypeSpellings
import SchemaCatalog.Proofs.Documenting
import SchemaCatalog.Proofs.Nesting
