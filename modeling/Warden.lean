import Warden.Text.Blank
import Warden.Text.Case
import Warden.Text.Items
import Warden.Error
import Warden.Authority.Basic
import Warden.Authority.Hierarchy
import Warden.Authority.Mapper
import Warden.Authentication
import Warden.Sid
import Warden.Access.Vote
import Warden.Access.Decision
import Warden.Access.RunAs
import Warden.Access.Metadata
import Warden.Access.Permission
import Warden.Web.Request
import Warden.Web.AntPattern
import Warden.Web.Matcher
import Warden.Observation
import Warden.Context.Holder
import Warden.Intercept
import Warden.Context.Propagation
import Warden.Web.Sessions
import Warden.Web.Anonymous
import Warden.Web.Chain
import Warden.Toml.Value
import Warden.Toml.Reader
import Warden.Config.Error
import Warden.Config.Environment
import Warden.Config.Settings
import Warden.Config.Build
import Warden.Proofs.Intercept.Scope
import Warden.Proofs.Web.Subtree
import Warden.Proofs.Hierarchy.Declaration
import Warden.Proofs.Hierarchy.Walk
import Warden.Proofs.Hierarchy.Acceptance
import Warden.Proofs.Authority.Lists
import Warden.Proofs.Access.Monotone
import Warden.Proofs.Intercept.Verdict
import Warden.Proofs.Intercept.Task
import Warden.Proofs.Intercept.Trail
import Warden.Proofs.Access.Strategies
import Warden.Proofs.Web.Language
import Warden.Proofs.Web.Forms
import Warden.Proofs.Authentication.Made
import Warden.Proofs.Config.Buildable
import Warden.Proofs.Web.Stored
import Warden.Proofs.Hierarchy.Search
import Warden.Proofs.Hierarchy.Expansion
import Warden.Proofs.Access.Tables
import Warden.Proofs.Web.Methods
import Warden.Proofs.Web.Saved
import Warden.Proofs.Access.Objects
import Warden.Proofs.Access.Substitutes
import Warden.Proofs.Web.Privilege
import Warden.Proofs.Authentication.Identities
import Warden.Proofs.Text.Converted
import Warden.Proofs.Authority.Mapping
import Warden.Proofs.Config.References
import Warden.Proofs.Context.Carried
import Warden.Proofs.Access.Ranked
import Warden.Proofs.Hierarchy.Loop
import Warden.Proofs.Context.Guards
