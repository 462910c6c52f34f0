import AgentRoom.Domain.Basics

namespace AgentRoom

inductive RepositoryErrorKind where
  | conflict
  | constraint
  | forbidden
  | notFound
  | unavailable
  | corruptData
deriving DecidableEq

structure RepositoryError where
  operation : String
  kind : RepositoryErrorKind

abbrev RepositoryResult (α : Type) := Except RepositoryError α

def corruptData (operation : String) : RepositoryError := ⟨operation, .corruptData⟩
def conflicting (operation : String) : RepositoryError := ⟨operation, .conflict⟩
def constraint (operation : String) : RepositoryError := ⟨operation, .constraint⟩

def orCorrupt {α : Type} (operation : String) : DomainResult α → RepositoryResult α
  | .ok value => .ok value
  | .error _ => .error (corruptData operation)

inductive MatrixFailureKind where
  | invalidConfiguration
  | unauthenticated
  | authenticationRejected
  | forbidden
  | notFound
  | conflict
  | rateLimited
  | timeout
  | dependencyUnavailable
  | cryptographicIdentityConflict
  | invalidResponse
  | unknownCommit
  | staleSyncToken
  | unsupportedVersion
deriving DecidableEq

def MatrixFailureKind.isTransient : MatrixFailureKind → Bool
  | .rateLimited | .timeout | .dependencyUnavailable | .unauthenticated => true
  | _ => false

inductive MatrixRoomSyncKind where
  | joined
  | invited
  | left
  | knocked
deriving DecidableEq

inductive AgentEventAuthenticationDecision where
  | trusted
  | trustedHistoricalRevoked
  | unknownInstance
  | revokedInstance
  | agentInstanceMismatch
  | invalidSignature
  | outsideInstanceValidityWindow

inductive AgentEventAuthenticationFailureKind where
  | unauthorized
  | unavailable
  | internal
deriving DecidableEq

end AgentRoom
