import Workflow.Params
/-!
# Prompts

The pieces of a prompt, each of which may stand under its own name or under one of the names for
values that come from another node; the first that is filled counts.

## Main definitions

* `Prompt` — question, context and instruction.
* `Prompt.ofParams` — the prompt in a node's parameters.
-/

namespace Workflow

structure Prompt where
  question : Option String := none
  context : Option String := none
  instruction : Option String := none
  deriving DecidableEq, Repr

namespace Prompt

def questionNames : List String :=
  ["user_prompt", "user_prompt_value", "prompt_value", "input_value"]

def contextNames : List String := ["context", "context_value"]

def instructionNames : List String := ["system_instruction", "system_instruction_value"]

/-- The prompt in a node's parameters. -/
def ofParams (params : Params) : Except Failure Prompt := do
  let question ← params.firstFilled questionNames
  let context ← params.firstFilled contextNames
  let instruction ← params.firstFilled instructionNames
  return { question, context, instruction }

end Prompt

/-- A number on the wire. -/
def Binary64.toJson (x : Binary64) : Json := (Value.number x).toJson

/-- Seven tenths, the usual temperature. -/
def usualTemperature : Binary64 := .ofDecimal false 7 (-1)

end Workflow
