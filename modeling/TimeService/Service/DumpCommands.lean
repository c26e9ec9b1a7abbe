import TimeService.Lib.Joined
import Mathlib.Data.List.Sort
import Mathlib.Data.String.Basic

namespace TimeService

/-!
# The dump commands

`time_cmd_parse.cpp`, `time_cmd_dispatcher.cpp` and the commands that `TimeService::InitDumpCmd`
registers.  A command is found by its key, which is its format without the last token, joined with
blanks; the arguments are looked up by the same key, so the last argument and the places of the
blanks do not count.

* `dispatch_proper_iff`: the arguments on which the dispatcher keeps to the formats.
-/

/-- The exception of `vector::at`. -/
inductive OutOfRange
  | outOfRange
deriving DecidableEq, Repr

/-- What the registered actions do. -/
inductive DumpAction
  | dumpAllTimeInfo
  | dumpTimerInfo
  | dumpTimerInfoById
  | dumpTimerTriggerById
deriving DecidableEq, Repr

/-- `TimeCmdParse`. -/
structure TimeCmdParse where
  format : List String
  help : String
  action : DumpAction
deriving DecidableEq, Repr

/-- The loop that `GetOption` and `getCmdTitle` share: all tokens but the last one, a blank after
    each, and the last blank removed. -/
def formatTitle (tokens : List String) : String :=
  let title := (tokens.take (tokens.length - 1)).foldl (fun title token => title ++ token ++ " ") ""
  String.ofList (title.toList.take (title.length - 1))

/-- `TimeCmdParse::GetOption`. -/
def TimeCmdParse.getOption (cmd : TimeCmdParse) : String := formatTitle cmd.format

/-- `TimeCmdParse::GetFormat`. -/
def TimeCmdParse.getFormat (cmd : TimeCmdParse) : String :=
  cmd.format.foldl (fun format seg => format ++ seg ++ " ") ""

/-- `TimeCmdDispatcher::getCmdTitle`. -/
def getCmdTitle (args : List String) : String := formatTitle args

/-- The actions by id, `DumpTimerInfoById` and `DumpTimerTriggerById`: without a manager, and when
    none can be created, they return; otherwise they show the timer whose id is the third
    argument. -/
def dumpById (managerOk : Bool) (input : List String) : Except OutOfRange (Option String) :=
  if !managerOk then .ok none
  else
    match input[2]? with
    | none => .error .outOfRange
    | some timerId => .ok (some timerId)

/-- `TimeCmdParse::DoAction`: the text of the timer id that is shown. -/
def DumpAction.doAction (managerOk : Bool) (input : List String) :
    DumpAction → Except OutOfRange (Option String)
  | .dumpAllTimeInfo => .ok none
  | .dumpTimerInfo => .ok none
  | .dumpTimerInfoById => dumpById managerOk input
  | .dumpTimerTriggerById => dumpById managerOk input

/-- `cmdHandler`, in the order of its keys. -/
abbrev CmdHandler := List (String × TimeCmdParse)

/-- `TimeCmdDispatcher::RegisterCommand`: a key that is there keeps its command. -/
def CmdHandler.registerCommand (cmdHandler : CmdHandler) (cmd : TimeCmdParse) : CmdHandler :=
  if cmdHandler.any fun entry => entry.1 = cmd.getOption then cmdHandler
  else cmdHandler.orderedInsert (fun x y => x.1 ≤ y.1) (cmd.getOption, cmd)

def cmdTime : TimeCmdParse :=
  ⟨["-time"], "dump current time info,include localtime,timezone info", .dumpAllTimeInfo⟩

def cmdTimerAll : TimeCmdParse := ⟨["-timer", "-a"], "dump all timer info", .dumpTimerInfo⟩

def cmdTimerInfo : TimeCmdParse :=
  ⟨["-timer", "-i", "[n]"], "dump the timer info with timer id", .dumpTimerInfoById⟩

def cmdTimerTrigger : TimeCmdParse :=
  ⟨["-timer", "-s", "[n]"], "dump current time info,include localtime,timezone info",
    .dumpTimerTriggerById⟩

/-- `TimeService::InitDumpCmd`. -/
def CmdHandler.initDumpCmd (cmdHandler : CmdHandler) : CmdHandler :=
  [cmdTime, cmdTimerAll, cmdTimerInfo, cmdTimerTrigger].foldl CmdHandler.registerCommand cmdHandler

/-- What a dispatch has done: it has listed the commands, performed one, or found none. -/
inductive DispatchResult
  | help (lines : List (String × String))
  | performed (cmd : TimeCmdParse) (timerId : Option String)
  | notFound
deriving DecidableEq, Repr

/-- `TimeCmdDispatcher::Dispatch`. -/
def CmdHandler.dispatch (cmdHandler : CmdHandler) (managerOk : Bool) (args : List String) :
    Except OutOfRange DispatchResult :=
  if args.isEmpty || args.head? == some "-h" then
    .ok (.help (cmdHandler.map fun entry => (entry.2.getFormat, entry.2.help)))
  else
    -- the title has lost the places of the blanks and the last argument
    match cmdHandler.lookup (getCmdTitle args) with
    | none => .ok .notFound
    | some cmd => (cmd.action.doAction managerOk args).map (.performed cmd)

/-- The arguments are as many as the tokens of the format, and equal them except where a number
    stands. -/
def TimeCmdParse.Matches (cmd : TimeCmdParse) (args : List String) : Prop :=
  List.Forall₂ (fun token arg => token ≠ "[n]" → arg = token) cmd.format args

/-- The dispatch raises no exception, and performs a command on matching arguments only. -/
def ProperDispatch (cmdHandler : CmdHandler) (managerOk : Bool) (args : List String) : Prop :=
  ∃ result, cmdHandler.dispatch managerOk args = .ok result ∧
    ∀ cmd timerId, result = .performed cmd timerId → cmd.Matches args

/-- The arguments that have the key of a command without matching its format. -/
def Misdirected (args : List String) : Prop :=
  (∃ arg, args = [arg] ∧ arg ≠ "-time" ∧ arg ≠ "-h") ∨
  (∃ arg, args = ["", arg]) ∨
  (∃ arg, args = ["-timer", arg] ∧ arg ≠ "-a") ∨
  ∃ arg, args = ["-timer -i", arg] ∨ args = ["-timer -s", arg]

/-! ### Keys -/

/-- The key of some arguments does not depend on the last one. -/
theorem getCmdTitle_concat (tokens : List String) (last : String) :
    getCmdTitle (tokens ++ [last]) = " ".intercalate tokens := by
  have hloop : ∀ (l : List String) (title : String),
      (l.foldl (fun title token => title ++ token ++ " ") title).toList
        = title.toList ++ (l.map String.toList).flatMap fun token => token ++ [' '] := by
    intro l
    induction l with
    | nil => simp
    | cons token l ih =>
      intro title
      rw [List.foldl_cons, ih]
      simp
  have htokens : (tokens ++ [last]).take ((tokens ++ [last]).length - 1) = tokens := by simp
  have hblank : " ".toList = [' '] := rfl
  unfold getCmdTitle formatTitle
  simp only [htokens]
  apply String.toList_inj.mp
  rw [← String.length_toList, ← List.dropLast_eq_take, hloop, String.toList_intercalate, hblank,
    ← Joined.dropLast_flatMap]
  simp

/-- The registered commands, by their keys. -/
theorem initDumpCmd_nil : CmdHandler.initDumpCmd []
    = [("", cmdTime), ("-timer", cmdTimerAll), ("-timer -i", cmdTimerInfo),
      ("-timer -s", cmdTimerTrigger)] := by
  decide +kernel

/-- The key of a single token. -/
theorem intercalate_eq_word_iff {tokens : List String} (htokens : tokens ≠ []) {key : String}
    (hkey : ' ' ∉ key.toList) : " ".intercalate tokens = key ↔ tokens = [key] := by
  have hblank : " ".toList = [' '] := rfl
  have hmap : tokens.map String.toList ≠ [] := by simpa using htokens
  rw [← String.toList_inj, String.toList_intercalate, hblank,
    Joined.intercalate_eq_iff_of_not_mem hmap hkey]
  have hone : [key.toList] = [key].map String.toList := rfl
  rw [hone, (List.map_injective_iff.mpr fun _ _ => String.toList_inj.mp).eq_iff]

/-- The key of two tokens is also the key of one token with a blank in it. -/
theorem intercalate_eq_words_iff {tokens : List String} {p q key : String}
    (hkey : key.toList = p.toList ++ ' ' :: q.toList) (hp : ' ' ∉ p.toList) (hq : ' ' ∉ q.toList) :
    " ".intercalate tokens = key ↔ tokens = [key] ∨ tokens = [p, q] := by
  have hblank : " ".toList = [' '] := rfl
  have hinj := List.map_injective_iff.mpr fun (_ _ : String) => String.toList_inj.mp
  have hone : [p.toList ++ ' ' :: q.toList] = [key].map String.toList := by rw [← hkey]; rfl
  have htwo : [p.toList, q.toList] = [p, q].map String.toList := rfl
  rw [← String.toList_inj, String.toList_intercalate, hblank, hkey,
    Joined.intercalate_eq_append_iff hp hq, hone, htwo, hinj.eq_iff, hinj.eq_iff]

/-- **The command that is found**, by the arguments before the last one. -/
theorem lookup_initDumpCmd (tokens : List String) :
    ((tokens = [] ∨ tokens = [""]) ∧
      (CmdHandler.initDumpCmd []).lookup (" ".intercalate tokens) = some cmdTime) ∨
    (tokens = ["-timer"] ∧
      (CmdHandler.initDumpCmd []).lookup (" ".intercalate tokens) = some cmdTimerAll) ∨
    ((tokens = ["-timer -i"] ∨ tokens = ["-timer", "-i"]) ∧
      (CmdHandler.initDumpCmd []).lookup (" ".intercalate tokens) = some cmdTimerInfo) ∨
    ((tokens = ["-timer -s"] ∨ tokens = ["-timer", "-s"]) ∧
      (CmdHandler.initDumpCmd []).lookup (" ".intercalate tokens) = some cmdTimerTrigger) ∨
    (tokens ∉ [[], [""], ["-timer"], ["-timer -i"], ["-timer", "-i"], ["-timer -s"],
        ["-timer", "-s"]] ∧
      (CmdHandler.initDumpCmd []).lookup (" ".intercalate tokens) = none) := by
  rw [initDumpCmd_nil]
  -- the empty key is that of no token and of one empty token
  by_cases hnil : tokens = []
  · subst hnil
    exact .inl ⟨.inl rfl, rfl⟩
  have hempty : " ".intercalate tokens = "" ↔ tokens = [""] :=
    intercalate_eq_word_iff hnil (by decide)
  have htimer : " ".intercalate tokens = "-timer" ↔ tokens = ["-timer"] :=
    intercalate_eq_word_iff hnil (by decide)
  have hinfo : " ".intercalate tokens = "-timer -i"
      ↔ tokens = ["-timer -i"] ∨ tokens = ["-timer", "-i"] :=
    intercalate_eq_words_iff (by decide) (by decide) (by decide)
  have htrigger : " ".intercalate tokens = "-timer -s"
      ↔ tokens = ["-timer -s"] ∨ tokens = ["-timer", "-s"] :=
    intercalate_eq_words_iff (by decide) (by decide) (by decide)
  by_cases h₀ : tokens = [""]
  · rw [hempty.mpr h₀]
    exact .inl ⟨.inr h₀, rfl⟩
  by_cases h₁ : tokens = ["-timer"]
  · rw [htimer.mpr h₁]
    exact .inr (.inl ⟨h₁, rfl⟩)
  by_cases h₂ : tokens = ["-timer -i"] ∨ tokens = ["-timer", "-i"]
  · rw [hinfo.mpr h₂]
    exact .inr (.inr (.inl ⟨h₂, rfl⟩))
  by_cases h₃ : tokens = ["-timer -s"] ∨ tokens = ["-timer", "-s"]
  · rw [htrigger.mpr h₃]
    exact .inr (.inr (.inr (.inl ⟨h₃, rfl⟩)))
  · right; right; right; right
    refine ⟨by simp [hnil, h₀, h₁, not_or.mp h₂, not_or.mp h₃], ?_⟩
    rw [List.lookup_eq_none_iff]
    simp [hempty, htimer, hinfo, htrigger, h₀, h₁, h₂, h₃]

/-! ### Proper dispatches -/

/-- The result of a dispatch that is not a request for help. -/
theorem dispatch_concat (cmdHandler : CmdHandler) (managerOk : Bool) (tokens : List String)
    (last : String) (hhelp : (tokens ++ [last]).head? ≠ some "-h") :
    cmdHandler.dispatch managerOk (tokens ++ [last])
      = match cmdHandler.lookup (" ".intercalate tokens) with
        | none => .ok .notFound
        | some cmd => (cmd.action.doAction managerOk (tokens ++ [last])).map (.performed cmd) := by
  unfold CmdHandler.dispatch
  rw [if_neg (by simpa using hhelp), getCmdTitle_concat]

/-- A command that is found and does not raise: the dispatch is proper when the arguments match. -/
theorem properDispatch_iff_matches {cmdHandler : CmdHandler} {managerOk : Bool}
    {args : List String} {cmd : TimeCmdParse} {timerId : Option String}
    (h : cmdHandler.dispatch managerOk args = .ok (.performed cmd timerId)) :
    ProperDispatch cmdHandler managerOk args ↔ cmd.Matches args := by
  unfold ProperDispatch
  rw [h]
  constructor
  · rintro ⟨result, hresult, hmatches⟩
    cases hresult
    exact hmatches cmd timerId rfl
  · intro hmatches
    refine ⟨_, rfl, fun cmd' timerId' heq => ?_⟩
    cases heq
    exact hmatches

/-- A command by id that is found by its key written as one argument lacks the third argument. -/
theorem not_properDispatch_byId {cmdHandler : CmdHandler} {managerOk : Bool} {word last : String}
    {cmd : TimeCmdParse} (hhelp : word ≠ "-h") (hformat : cmd.format.length = 3)
    (haction : ∀ input, cmd.action.doAction managerOk input = dumpById managerOk input)
    (hlookup : cmdHandler.lookup (" ".intercalate [word]) = some cmd) :
    ¬ ProperDispatch cmdHandler managerOk [word, last] := by
  have hdispatch := dispatch_concat cmdHandler managerOk [word] last (by simpa using hhelp)
  rw [hlookup] at hdispatch
  simp only [haction] at hdispatch
  rintro ⟨result, hresult, hmatches⟩
  rw [List.singleton_append, hresult] at hdispatch
  cases managerOk with
  | false =>
    -- without a manager the action returns early
    have hperformed : result = .performed cmd none := Except.ok.inj hdispatch
    have hlength := (hmatches cmd none hperformed).length_eq
    rw [hformat] at hlength
    simp at hlength
  | true => cases hdispatch

/-- A command by id with its arguments in their places. -/
theorem properDispatch_byId {cmdHandler : CmdHandler} {managerOk : Bool} {option last : String}
    {cmd : TimeCmdParse} (hformat : cmd.format = ["-timer", option, "[n]"])
    (haction : ∀ input, cmd.action.doAction managerOk input = dumpById managerOk input)
    (hlookup : cmdHandler.lookup (" ".intercalate ["-timer", option]) = some cmd) :
    ProperDispatch cmdHandler managerOk ["-timer", option, last] := by
  have hdispatch := dispatch_concat cmdHandler managerOk ["-timer", option] last (by simp)
  rw [hlookup] at hdispatch
  simp only [haction] at hdispatch
  have hmatches : cmd.Matches ["-timer", option, last] := by
    simp [TimeCmdParse.Matches, hformat]
  cases managerOk with
  | false => exact (properDispatch_iff_matches hdispatch).mpr hmatches
  | true => exact (properDispatch_iff_matches hdispatch).mpr hmatches

/-- A request for help performs no command. -/
theorem properDispatch_help {cmdHandler : CmdHandler} {managerOk : Bool} {args : List String}
    (hhelp : (args.isEmpty || args.head? == some "-h") = true) :
    ProperDispatch cmdHandler managerOk args := by
  refine ⟨_, if_pos hhelp, fun cmd timerId h => ?_⟩
  cases h

/-- Nor does a dispatch that finds none. -/
theorem properDispatch_notFound {cmdHandler : CmdHandler} {managerOk : Bool} {args : List String}
    (h : cmdHandler.dispatch managerOk args = .ok .notFound) :
    ProperDispatch cmdHandler managerOk args := by
  refine ⟨_, h, fun cmd timerId hperformed => ?_⟩
  cases hperformed

/-- Misdirected arguments are no request for help. -/
theorem Misdirected.not_help {args : List String} (h : Misdirected args) :
    ¬ (args.isEmpty || args.head? == some "-h") = true := by
  intro hhelp
  rcases h with ⟨arg, rfl, _, harg⟩ | ⟨arg, rfl⟩ | ⟨arg, rfl, _⟩ | ⟨arg, rfl | rfl⟩
  · exact harg (by simpa using hhelp)
  all_goals simp at hhelp

/-- Misdirected arguments before the last one. -/
theorem Misdirected.dropLast_mem {args : List String} (h : Misdirected args) :
    args.dropLast ∈ [[], [""], ["-timer"], ["-timer -i"], ["-timer -s"]] := by
  rcases h with ⟨arg, rfl, _⟩ | ⟨arg, rfl⟩ | ⟨arg, rfl, _⟩ | ⟨arg, rfl | rfl⟩ <;> simp

/-- **Proper dispatches.** For every list of arguments, and whether or not a manager can be created:
    the dispatch raises no exception and performs a command on matching arguments only, exactly when
    the arguments are not misdirected. -/
theorem dispatch_proper_iff (managerOk : Bool) (args : List String) :
    ProperDispatch (CmdHandler.initDumpCmd []) managerOk args ↔ ¬ Misdirected args := by
  by_cases hhelp : args.isEmpty || args.head? == some "-h"
  · exact iff_of_true (properDispatch_help hhelp) fun h => h.not_help hhelp
  · obtain rfl | ⟨tokens, last, rfl⟩ := List.eq_nil_or_concat args
    · exact (hhelp rfl).elim
    rw [List.concat_eq_append] at hhelp ⊢
    have hhead : (tokens ++ [last]).head? ≠ some "-h" := by simpa using hhelp
    have hdispatch := dispatch_concat (CmdHandler.initDumpCmd []) managerOk tokens last hhead
    rcases lookup_initDumpCmd tokens with ⟨rfl | rfl, hlookup⟩ | ⟨rfl, hlookup⟩ |
      ⟨rfl | rfl, hlookup⟩ | ⟨rfl | rfl, hlookup⟩ | ⟨hother, hlookup⟩
    · -- one argument has the key of `-time`, whatever it is
      rw [hlookup] at hdispatch
      rw [properDispatch_iff_matches hdispatch]
      have hlast : last ≠ "-h" := by simpa using hhead
      simp [TimeCmdParse.Matches, cmdTime, Misdirected, hlast]
    · rw [hlookup] at hdispatch
      rw [properDispatch_iff_matches hdispatch]
      simp [TimeCmdParse.Matches, cmdTime, Misdirected]
    · rw [hlookup] at hdispatch
      rw [properDispatch_iff_matches hdispatch]
      simp [TimeCmdParse.Matches, cmdTimerAll, Misdirected]
    · have hnot : ¬ ProperDispatch (CmdHandler.initDumpCmd []) managerOk ["-timer -i", last] :=
        not_properDispatch_byId (by decide) rfl (fun _ => rfl) hlookup
      simp [hnot, Misdirected]
    · have hproper : ProperDispatch (CmdHandler.initDumpCmd []) managerOk ["-timer", "-i", last] :=
        properDispatch_byId rfl (fun _ => rfl) hlookup
      simp [hproper, Misdirected]
    · have hnot : ¬ ProperDispatch (CmdHandler.initDumpCmd []) managerOk ["-timer -s", last] :=
        not_properDispatch_byId (by decide) rfl (fun _ => rfl) hlookup
      simp [hnot, Misdirected]
    · have hproper : ProperDispatch (CmdHandler.initDumpCmd []) managerOk ["-timer", "-s", last] :=
        properDispatch_byId rfl (fun _ => rfl) hlookup
      simp [hproper, Misdirected]
    · -- no command is found
      rw [hlookup] at hdispatch
      refine iff_of_true (properDispatch_notFound hdispatch) fun h => ?_
      have hmem := h.dropLast_mem
      rw [List.dropLast_concat] at hmem
      simp only [List.mem_cons, List.not_mem_nil, or_false, not_or] at hother hmem
      tauto

/-- One argument with a blank in it has the key of `-timer -i`: the action reads a third argument
    that is not there. -/
theorem dispatch_throws :
    ¬ ProperDispatch (CmdHandler.initDumpCmd []) true ["-timer -i", "5"] ∧
    (CmdHandler.initDumpCmd []).dispatch true ["-timer -i", "5"] = .error .outOfRange ∧
    (CmdHandler.initDumpCmd []).dispatch true ["-timer", "-i", "5"]
      = .ok (.performed cmdTimerInfo (some "5")) := by
  refine ⟨?_, by decide +kernel, by decide +kernel⟩
  have hlookup : (CmdHandler.initDumpCmd []).lookup (" ".intercalate ["-timer -i"])
      = some cmdTimerInfo := by decide +kernel
  exact not_properDispatch_byId (by decide) rfl (fun _ => rfl) hlookup

end TimeService
