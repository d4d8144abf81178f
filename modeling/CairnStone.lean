import CairnStone.AccessGrants.Grants
import CairnStone.Bootstrap.SparseAuthority
import CairnStone.CodeSession.LeaseExclusion
import CairnStone.CodeSession.ResumeTruth
import CairnStone.CodeSession.SessionHistory
import CairnStone.ContextRetention.Ledger
import CairnStone.ContextRetention.Recoverability
import CairnStone.Conversation.StandingPolicy
import CairnStone.CoreAuth.ActorOwnership
import CairnStone.CoreAuth.AudienceAgreement
import CairnStone.CoreAuth.AuthzVersions
import CairnStone.CoreAuth.ClientMetadataUrl
import CairnStone.CoreAuth.CodeOrigins
import CairnStone.CoreAuth.Provisioning
import CairnStone.CoreAuth.RefreshRotation
import CairnStone.CoreAuth.RegistrationBounds
import CairnStone.CoreAuth.SignCounters
import CairnStone.Correspondence.GitHubMirror
import CairnStone.Correspondence.Pickup
import CairnStone.Delegation.Citations
import CairnStone.Delegation.Conduct
import CairnStone.Delegation.LoopGrounding
import CairnStone.Gateway.Dispatch
import CairnStone.GroundedResponse.Freshness
import CairnStone.GroundedResponse.ScopeSearch
import CairnStone.PrivateRealm.D1Registration
import CairnStone.PrivateRealm.D1Replay
import CairnStone.PrivateRealm.D1Stamps
import CairnStone.PrivateRealm.EnvelopeReplay
import CairnStone.PrivateRealm.PayloadEncoding
import CairnStone.Sandbox.ReceiptHistory
import CairnStone.Skills.DependencyCycles
import CairnStone.TaskRuns.Ceilings
import CairnStone.TaskRuns.Eligibility
import CairnStone.TaskRuns.Fanout
import CairnStone.ToolAuthorization.OneTime
import CairnStone.ToolBroker.Agreement
import CairnStone.UnifiedConversations.Exactness
import CairnStone.Vault.IncrementalOrientation
import CairnStone.Vault.IngestedContent
import CairnStone.Vault.RefExpansion
import CairnStone.Vault.ShortHashes
import CairnStone.WebAuthn.Signatures
import CairnStone.Workspace.FrozenInstants
import CairnStone.Workspace.RevisionRecurrence
import CairnStone.Workspace.TipAgreement
