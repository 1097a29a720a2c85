import ProductionStack.Lib.CommandLine
import ProductionStack.Operator.UpdateCheck

/-!
The name by which the autoscaler watches a model. The controller looks for it in the extra
arguments itself, and the engine gets it from its whole command line.
-/

namespace ProductionStack.Operator

open Lib

/-- `strings.HasPrefix` and `strings.TrimPrefix` of `"--served-model-name="`. -/
def assignedName (arg : String) : Option String :=
  if "--served-model-name=".toList.isPrefixOf arg.toList then
    some (String.ofList (arg.toList.drop "--served-model-name=".length))
  else none

/-- The query for the rate of the requests that come in for a model. -/
def incomingRequests (ns model : String) : String :=
  "sum(rate(vllm:num_incoming_requests_total\x7bnamespace=\"" ++ ns ++ "\", model=\"" ++ model ++
    "\"\x7d[2m]) > bool 0)"

namespace VLLMRuntime

variable (vllmRuntime : VLLMRuntime)

/-- The first of the extra arguments that assigns a name decides. -/
def servedModelName : String :=
  (vllmRuntime.spec.vllmConfig.extraArgs.findSome? assignedName).getD
    vllmRuntime.spec.model.modelURL

/-- The query of the keep-alive trigger of `reconcileScaledObject`. -/
def keepAliveQuery : String := incomingRequests vllmRuntime.ns vllmRuntime.servedModelName

end VLLMRuntime

theorem incomingRequests_injective (ns : String) : Function.Injective (incomingRequests ns) := by
  intro name name' h
  unfold incomingRequests at h
  exact (String.append_right_inj _).mp ((String.append_left_inj _).mp h)

/-! The engine. -/

/-- The command line of `vllm serve`, as far as it is known here. How many names the option
takes, how else it may be written and which others there are is left open; a bare `--` is left
out. -/
structure EngineLine (Opt : Type) extends Grammar Opt where
  served : Opt
  assigned : ∀ arg name, assignedName arg = some name → classify arg = .option served (some name)
  separate : classify "--served-model-name" = .option served none

section Engine

variable {Opt : Type} [DecidableEq Opt]

/-- The last time that the option is given. -/
def EngineLine.lastServed (line : EngineLine Opt) (given : List (Given Opt)) : Option (Given Opt) :=
  (given.filter fun a => a.option = line.served).getLast?

/-- The names under which the engine serves the model. -/
def EngineLine.servedNames (line : EngineLine Opt) (modelURL : String) (given : List (Given Opt)) :
    List String :=
  ((line.lastServed given).map Given.values).getD [modelURL]

/-- A name is assigned only where the option is given. -/
theorem EngineLine.findSome?_eq_none {line : EngineLine Opt} {vr : VLLMRuntime}
    {given : List (Given Opt)} (h : line.parse vr.args = some given)
    (hnone : line.lastServed given = none) :
    vr.spec.vllmConfig.extraArgs.findSome? assignedName = none := by
  rw [List.findSome?_eq_none_iff]
  intro arg harg
  cases hname : assignedName arg with
  | none => rfl
  | some name =>
    simp only [VLLMRuntime.args, List.append_assoc, List.cons_append, List.nil_append] at h
    obtain ⟨a, ha, hserved⟩ := Grammar.given_of_mem (Grammar.parse_cons h)
      (by simp [harg]) (line.assigned arg name hname)
    have hempty := List.filter_eq_nil_iff.mp (List.getLast?_eq_none_iff.mp hnone) a ha
    simp [hserved] at hempty

/-- The trigger watches a name under which the engine serves the model exactly if the option
is not given, or its last values have the name that is first assigned with an equals sign, or
the URL of the model if none is. -/
theorem keepAlive_watches_served_iff (line : EngineLine Opt) (vr : VLLMRuntime)
    (given : List (Given Opt)) (haccepts : line.parse vr.args = some given) :
    (∃ name ∈ line.servedNames vr.spec.model.modelURL given,
        vr.keepAliveQuery = incomingRequests vr.ns name) ↔
      ∀ last ∈ line.lastServed given,
        (vr.spec.vllmConfig.extraArgs.findSome? assignedName).getD vr.spec.model.modelURL ∈
          last.values := by
  have hname : (∃ name ∈ line.servedNames vr.spec.model.modelURL given,
      vr.keepAliveQuery = incomingRequests vr.ns name) ↔
      vr.servedModelName ∈ line.servedNames vr.spec.model.modelURL given := by
    constructor
    · rintro ⟨name, hserved, hquery⟩
      rwa [incomingRequests_injective vr.ns hquery]
    · intro hserved
      exact ⟨_, hserved, rfl⟩
  rw [hname, VLLMRuntime.servedModelName]
  cases hlast : line.lastServed given with
  | none =>
    rw [EngineLine.findSome?_eq_none haccepts hlast]
    simp [EngineLine.servedNames, hlast]
  | some last => simp [EngineLine.servedNames, hlast]

end Engine

/-! A command line. -/

inductive EngineOption where
  | served
  | valued
  | switch
  deriving DecidableEq

/-- Everything that starts with two hyphens is an option. -/
def classifyPlain (arg : String) : Token EngineOption :=
  match assignedName arg with
  | some name => .option .served (some name)
  | none =>
    if arg = "--served-model-name" then .option .served none
    else if ["--host", "--port", "--tool-call-parser", "--max-model-len", "--dtype", "--max-num-seqs",
      "--tensor-parallel-size", "--gpu_memory_utilization", "--max_loras"].contains arg then
      .option .valued none
    else if "--".toList.isPrefixOf arg.toList then .option .switch none else .value

def plainLine : EngineLine EngineOption where
  classify := classifyPlain
  arity
    | .served => .oneOrMore
    | .valued => .one
    | .switch => .zero
  served := .served
  assigned arg name h := by simp [classifyPlain, h]
  separate := by decide +kernel

def runtimeWith (extraArgs : List String) : VLLMRuntime :=
  let plain := aRuntime none ⟨false, "", "", "", ""⟩ ""
  { plain with spec := { plain.spec with vllmConfig := { plain.spec.vllmConfig with extraArgs } } }

/-- Given once, with an equals sign. -/
theorem keepAlive_watches_assigned :
    let vr := runtimeWith ["--served-model-name=llama"]
    ∃ given, plainLine.parse vr.args = some given ∧
      ∃ name ∈ plainLine.servedNames vr.spec.model.modelURL given,
        vr.keepAliveQuery = incomingRequests vr.ns name := by
  intro vr
  have hlast : (plainLine.parse vr.args).any (fun given => (plainLine.lastServed given).all fun last =>
      last.values.contains ((vr.spec.vllmConfig.extraArgs.findSome? assignedName).getD
        vr.spec.model.modelURL)) = true := by decide +kernel
  obtain ⟨given, haccepts, hlast⟩ := (Option.any_eq_true _ _).mp hlast
  refine ⟨given, haccepts, (keepAlive_watches_served_iff plainLine vr given haccepts).mpr ?_⟩
  simpa [Option.all_eq_true] using hlast

/-- Given as two arguments, the name is not found; given twice, the first one is. -/
theorem keepAlive_watches_other :
    let served (extraArgs : List String) :=
      (plainLine.parse (runtimeWith extraArgs).args).map (plainLine.servedNames "meta/llama")
    served ["--served-model-name", "llama"] = some ["llama"] ∧
      (runtimeWith ["--served-model-name", "llama"]).keepAliveQuery =
        incomingRequests "default" "meta/llama" ∧
      served ["--served-model-name=a", "--served-model-name=b"] = some ["b"] ∧
      (runtimeWith ["--served-model-name=a", "--served-model-name=b"]).keepAliveQuery =
        incomingRequests "default" "a" := by
  decide +kernel

end ProductionStack.Operator
