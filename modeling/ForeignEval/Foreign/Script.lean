import ForeignEval.Foreign.Exported

/-!
# Scripted functions

A foreign function that follows a script: its dimensions, a simple rule for its outputs, and the
calls that are to fail. A script can stand for a function in this process or for one that a module
exports.

* **Failing calls** — the lists for `create`, `info`, `init` and `finalize` are looked up by state
  number, the last entry standing for all later ones.
* **Points** — a point is refused by the first rule that applies to it; points that are not refused
  are counted per state.
-/

namespace ForeignEval.Foreign

/-- How a script computes the values of an output. -/
inductive Formula where
  /-- The sum of the input and the value's index. -/
  | sum
  /-- The input, over and over; the index where there is no input. -/
  | echo
  /-- How many points the state has evaluated, this one included. -/
  | count
  /-- Nothing is written. -/
  | nothing
deriving DecidableEq

/-- What happens to a call that is not to succeed. -/
inductive Effect where
  /-- The call ends with a report. -/
  | report (report : Report)
  /-- The call unwinds with a text. -/
  | panic (text : String)

/-- A rule for points. -/
structure Rule where
  /-- The first input to which the rule applies; any point if there is none. -/
  first : Option Double
  /-- What happens to such points. -/
  effect : Effect

/-- A foreign function in data. -/
structure Script where
  /-- The input dimension told. -/
  inputs : Nat
  /-- The output dimension told. -/
  outputs : Nat
  /-- The description told. -/
  description : CString
  /-- How outputs are computed. -/
  formula : Formula
  /-- Which calls for a state fail. -/
  create : List (Option Report)
  /-- Which questions for the dimensions fail. -/
  info : List (Option Report)
  /-- Which preparations fail or unwind. -/
  init : List (Option Effect)
  /-- Which ends of use fail. -/
  finalize : List (Option Report)
  /-- Which points are refused. -/
  rules : List Rule

/-- The entry for a state: the last one stands for all states beyond the list. -/
def scripted {α : Type} (entries : List (Option α)) (state : Nat) : Option α :=
  (entries[min state (entries.length - 1)]?).join

theorem mem_of_scripted {α : Type} {entries : List (Option α)} {state : Nat} {entry : α}
    (found : scripted entries state = some entry) : some entry ∈ entries :=
  List.mem_of_getElem? (Option.join_eq_some_iff.1 found)

/-- Whether a rule applies to a point. -/
def Rule.appliesTo (rule : Rule) (input : Point) : Bool :=
  match rule.first with
  | none => true
  | some first => input.head? = some first

namespace Script

/-- The script of a function of one input and one output that never fails. -/
def standard : Script := ⟨1, 1, none, .sum, [], [], [], [], []⟩

@[simp] theorem init_standard : standard.init = [] := rfl

/-- What happens to a point that is refused. -/
def refusal? (script : Script) (input : Point) : Option Effect :=
  (script.rules.find? (·.appliesTo input)).map (·.effect)

/-- How many points a call has evaluated. -/
def evaluatedBy (script : Script) : Call → Nat
  | .exec _ input _ => if (script.refusal? input).isNone then 1 else 0
  | .execBatch _ rows dimension input _ _ =>
    ((splitRows dimension rows input).takeWhile fun row => (script.refusal? row).isNone).length
  | _ => 0

/-- How many points a state has evaluated. -/
def evaluated (script : Script) (trace : Trace) (source : Source) (state : Nat) : Nat :=
  ((trace.callsOf source).filter (·.state == state)).foldl
    (fun points call => points + script.evaluatedBy call) 0

/-- The value at an index of an output, after so many points. -/
def value (script : Script) (before : Nat) (input : Point) (index : Nat) : Double :=
  match script.formula with
  | .sum => (input.foldl Double.add Double.zero).add (Double.ofNat index)
  | .echo => (input[index % input.length]?).getD (Double.ofNat index)
  | .count => Double.ofNat (before + 1)
  | .nothing => Double.zero

/-- The output for a point, after so many points. -/
def output (script : Script) (before : Nat) (input : Point) (outputs : Nat) : Point :=
  (List.range outputs).map (script.value before input)

/-- The outputs for points in order, up to the first that is refused, and what happens to that. -/
def outputsFor (script : Script) (outputs : Nat) :
    (before : Nat) → List Point → List Double × Option Effect
  | _, [] => ([], none)
  | before, row :: rows =>
    match script.refusal? row with
    | some effect => ([], some effect)
    | none =>
      let (values, effect) := script.outputsFor outputs (before + 1) rows
      (script.output before row outputs ++ values, effect)

/-! ## In this process -/

/-- A report as a failure, whatever its number. -/
def failureOf (report : Report) : Failure :=
  ⟨.ofCode report.code, (report.message.map Text.Utf8.decodeLossy).getD ""⟩

/-- The outcome of a call that fails when there is an entry for it. -/
def outcomeOf : Option Report → Except Failure Unit
  | none => .ok ()
  | some report => .error (failureOf report)

/-- The answer for evaluated points, or for the one that was refused. -/
def answerOf {α : Type} (result : α) : Option Effect → Answer α
  | none => .value result
  | some (.report report) => .failed (failureOf report)
  | some (.panic text) => .panicked text

/-- The script as a function of this process. -/
def table (script : Script) (source : Source) : Table where
  source := source
  library := none
  onCreate trace := outcomeOf (scripted script.create (trace.created source))
  onInfo _ state :=
    match scripted script.info state with
    | some report => .error (failureOf report)
    | none =>
      .ok ⟨script.inputs, script.outputs, script.description.map Text.Utf8.decodeLossy⟩
  onInit _ state := answerOf () (scripted script.init state)
  onExec trace state input outputs :=
    let (values, effect) :=
      script.outputsFor outputs (script.evaluated trace source state) [input]
    answerOf values effect
  onExecBatch trace state rows dimension input outputs _ :=
    let (values, effect) :=
      script.outputsFor outputs (script.evaluated trace source state)
        (splitRows dimension rows input)
    answerOf values effect
  onFinalize _ state := outcomeOf (scripted script.finalize state)

/-! ## In a module -/

/-- The report of an effect; a module cannot unwind and reports a number and the text instead. -/
def reportOf : Option Effect → Report
  | none => .fine
  | some (.report report) => report
  | some (.panic text) => .failing (-4) text

/-- The script as a function that a module exports. -/
def exported (script : Script) (source : Source) : Exported where
  create trace := (scripted script.create (trace.created source)).map (·.message)
  info _ state :=
    ((scripted script.info state).getD .fine, ⟨script.inputs, script.outputs, script.description⟩)
  init _ state := reportOf (scripted script.init state)
  exec trace state input outputs :=
    let (values, effect) :=
      script.outputsFor outputs (script.evaluated trace source state) [input]
    (reportOf effect, values)
  execBatch trace state rows dimension input outputs :=
    let (values, effect) :=
      script.outputsFor outputs (script.evaluated trace source state)
        (splitRows dimension rows input)
    (reportOf effect, values)
  finalize _ state := (scripted script.finalize state).getD .fine

/-! ## Modules of scripts -/

/-- The functions that a module of scripts exports completely. -/
def completeFunctions : List String := ["f", "g", "h_1", "größe"]

/-- Functions of which a module of scripts leaves out one entry point each. -/
def incompleteFunctions : List (String × EntryPoint) :=
  [("no_create", .stateCreate), ("no_delete", .stateDelete), ("no_info", .info),
    ("no_init", .init), ("no_exec", .exec), ("no_batch", .execBatch), ("no_final", .finalize)]

/-- A module whose functions follow scripts; one without a script follows the standard one. -/
def image (file : String) (scripts : List (String × Script)) : Image where
  file := file
  symbols :=
    Image.symbolsOf completeFunctions ++
      incompleteFunctions.flatMap (fun (function, missing) =>
        (EntryPoint.all.filter (· ≠ missing)).map (·.symbolName function)) ++
      [EntryPoint.finalize.symbolName "only_final"]
  function name source := ((scripts.lookup name).getD standard).exported source

end Script

end ForeignEval.Foreign
