import ResourceTemplate.Draft
import ResourceTemplate.Expr.Intrinsic
import ResourceTemplate.Settings
import ResourceTemplate.Value.Argument
import ResourceTemplate.Proofs.Cell.Reading
import ResourceTemplate.Proofs.Draft.ByKind
import ResourceTemplate.Proofs.Draft.Commute
import ResourceTemplate.Proofs.Draft.Declaration
import ResourceTemplate.Proofs.Draft.Lasting
import ResourceTemplate.Proofs.Draft.Qualified
import ResourceTemplate.Proofs.Expr.Chained
import ResourceTemplate.Proofs.Expr.Received
import ResourceTemplate.Proofs.Expr.Unambiguous
import ResourceTemplate.Proofs.KeyStyle.Respelling
import ResourceTemplate.Proofs.Node.Equal
import ResourceTemplate.Proofs.Node.Resolved
import ResourceTemplate.Proofs.Node.ResourceName
import ResourceTemplate.Proofs.Node.SnakeCase
import ResourceTemplate.Proofs.Template.References
