import Warden.Config.Settings
import Warden.Web.Chain

/-!
# Building from settings

The request table, decision manager, run-as manager, interceptor and filter chain of settings.
-/

namespace Warden.Config

open Web

def Settings.manager (s : Settings) : Except Error Manager := do
  let roleVoter ← match s.roleHierarchy with
    | some d => Voter.hierarchy <$> RoleHierarchy.ofDeclaration d
    | none => pure (Voter.role "ROLE_")
  Manager.ofVoters s.strategy [roleVoter, .authenticated] s.allowIfAllAbstain s.allowIfEqual

def Settings.requestTable (s : Settings) : Except Error RequestTable := do
  let rules ← s.rules.mapM fun r => do
    return (Matcher.ant (← AntMatcher.create r.pattern r.method), r.attributes)
  return ⟨rules⟩

def Settings.interceptor (s : Settings) : Except Error (Interceptor Request) := do
  let table ← s.requestTable
  let manager ← s.manager
  let runAs ← match s.runAs with
    | some r => RunAs.withKey r.key r.rolePrefix
    | none => pure .disabled
  return { attributesOf := table.attributes?, describe := Request.display,
           manager := manager.onObject, runAs := runAs.onObject, observed := false,
           rejectPublic := s.rejectPublic }

def Settings.chain (s : Settings) : Except Error Chain := do
  let interceptor ← s.interceptor
  let anonymous ← if s.anonymous.enabled then
      some <$> AnonymousFilter.create s.anonymous.key s.anonymous.principal s.anonymous.authorities
    else pure none
  return { interceptor, anonymous }

end Warden.Config
