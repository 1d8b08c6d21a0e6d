import Workflow.Chain.Run
import Workflow.StandardNodes
/-!
# Settings of the server

## Main definitions

* `ServerSettings` — the settings.
* `ServerSettings.ofEnvironment` — the settings that environment variables ask for.
-/

namespace Workflow

structure ServerSettings where
  bindAddress : String := "0.0.0.0:3000"
  /-- The key of the assistant, which is off without it. -/
  assistantKey : Option String := none
  assistantBase : String := ({} : Endpoints).openAi
  policy : Policy := .goOn
  /-- Files are written below this directory. -/
  outputDirectory : String
  deriving DecidableEq, Repr

namespace ServerSettings

/-- The policy that a variable asks for. -/
def policyOf : Option String → Except String Policy
  | none => .ok .goOn
  | some text => Policy.parse text

/-- The settings that environment variables ask for; output goes to the directory for temporary
files by default. -/
def ofEnvironment (temporary : String) (lookUp : String → Option String) :
    Except String ServerSettings := do
  let policy ← policyOf (lookUp "CHAIN_SOFT_FAILURE")
  let defaults : ServerSettings := { outputDirectory := temporary }
  return { defaults with
    bindAddress := (lookUp "BIND_ADDRESS").getD defaults.bindAddress
    assistantKey := Params.filled (lookUp "OPENAI_API_KEY")
    policy
    outputDirectory := ((lookUp "CHAIN_OUTPUT_DIR").filter (· ≠ "")).getD temporary }

end ServerSettings

end Workflow
