import ScriptHost.Program
import ScriptHost.Proofs.RegistryHistory
import ScriptHost.Proofs.Callbacks
import ScriptHost.Proofs.Unfolding
import ScriptHost.Proofs.Iteration
import ScriptHost.Proofs.Membership
import ScriptHost.Proofs.NumberToString
import ScriptHost.Proofs.ReachedHandles
