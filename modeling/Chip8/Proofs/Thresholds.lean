/-
  Which messages a console writes.

  A level's rank is the place of its name among the severities, or that of information
  for any other name, whatever the case of the letters (`rankOf`).  A console can be
  asked to log a message, to report one at a severity, or to change its threshold.

  * `levelRank_upper`: this is how the levels of messages and thresholds compare;
  * `threshold_after`: after any calls the threshold is the last one that was set;
  * `answers_getElem?`: each call is answered by the console as the calls before it
    left it;
  * `output_of_steady`: without a change of threshold the lines are those of the
    messages that it lets through;
  * `filtered_by_rank`: so a message is written iff it ranks no lower than the level
    last set or begun with, and a higher threshold writes some of what a lower one
    writes.
-/
import Chip8.Log

namespace Chip8

/-! ## Ranks -/

/-- The rank of a level, in any case. -/
def rankOf (level : String) : Nat :=
  match Text.upper level with
  | "DEBUG" => 0
  | "INFO" => 1
  | "WARNING" => 2
  | "ERROR" => 3
  | "CRITICAL" => 4
  | _ => 1

theorem levelRank_upper (level : String) : levelRank (Text.upper level) = rankOf level := by
  unfold rankOf
  split
  iterate 5
    · next h =>
      rw [h]
      decide
  · next hdebug hinfo hwarning herror hcritical =>
    have hnone : severity? (Text.upper level) = none := by
      rw [severity?, List.find?_eq_none]
      intro s _ hs
      have hname := eq_of_beq hs
      cases s with
      | debug => exact hdebug hname.symm
      | info => exact hinfo hname.symm
      | warning => exact hwarning hname.symm
      | error => exact herror hname.symm
      | critical => exact hcritical hname.symm
    rw [levelRank, hnone]
    rfl

theorem rankOf_name (s : Severity) : rankOf s.name = s.rank := by
  rw [← levelRank_upper]
  cases s <;> decide +kernel

/-! ## Calls -/

namespace Console

/-- A message, and the moment at which it is handed over. -/
structure Message where
  moment : Int
  level : String
  text : String

/-- What a console is asked to do. -/
inductive Call where
  | log (m : Message)
  /-- a message at a severity -/
  | report (s : Severity) (moment : Int) (text : String)
  | setLevel (level : String)

namespace Call

/-- The message of a call, unless the threshold is set. -/
def message? : Call → Option Message
  | .log m => some m
  | .report s moment text => some ⟨moment, s.name, text⟩
  | .setLevel _ => none

/-- The level that a call sets. -/
def level? : Call → Option String
  | .log _ | .report .. => none
  | .setLevel level => some level

/-- Whether a call leaves the threshold as it is. -/
def IsSteady (call : Call) : Prop := call.level? = none

instance : DecidablePred IsSteady := fun call => inferInstanceAs (Decidable (call.level? = none))

end Call

variable (c : Console) (elapsed : Int → Int) (calls : List Call)

/-- The console after a call. -/
def obey : Call → Console
  | .log _ | .report .. => c
  | .setLevel level => c.setLevel level

/-- What is written at a call, on a console that was opened as long before each
    moment as `elapsed` says. -/
def answer : Call → Option String
  | .log m => c.log (elapsed m.moment) m.level m.text
  | .report s moment text => c.log (elapsed moment) s.name text
  | .setLevel _ => none

/-- The console after some calls. -/
def after : Console := calls.foldl obey c

/-- What is written at each of some calls. -/
def answers (c : Console) : List Call → List (Option String)
  | [] => []
  | call :: calls => c.answer elapsed call :: (c.obey call).answers calls

/-- The lines that are written at some calls. -/
def output : List String := (c.answers elapsed calls).filterMap id

/-- The line of a message. -/
def line (m : Message) : String := c.format (elapsed m.moment) m.level m.text

variable {c elapsed calls}

/-! ## One call -/

/-- A call with a message writes its line or nothing. -/
theorem answer_eq (call : Call) : c.answer elapsed call =
    call.message?.bind fun m => if c.isEnabledFor m.level then some (c.line elapsed m) else none := by
  cases call <;> rfl

theorem obey_threshold (call : Call) :
    (c.obey call).threshold = (call.level?.map Text.upper).getD c.threshold := by
  cases call <;> rfl

/-- A call changes nothing but the threshold. -/
theorem obey_line (call : Call) : (c.obey call).line elapsed = c.line elapsed := by
  cases call <;> rfl

theorem obey_of_steady {call : Call} (h : call.IsSteady) : c.obey call = c := by
  cases call with
  | log | report => rfl
  | setLevel => cases h

/-- Levels compare by rank, against a threshold that is in upper case. -/
theorem isEnabledFor_iff {current : String} (hc : c.threshold = Text.upper current)
    (level : String) : c.isEnabledFor level = true ↔ rankOf current ≤ rankOf level := by
  rw [isEnabledFor, decide_eq_true_iff, hc, levelRank_upper, levelRank_upper]

/-! ## Some calls -/

theorem after_line : (c.after calls).line elapsed = c.line elapsed := by
  induction calls generalizing c with
  | nil => rfl
  | cons call calls ih => exact ih.trans (obey_line call)

/-- The last level that was set decides about the threshold. -/
theorem threshold_after : (c.after calls).threshold =
    ((calls.filterMap Call.level?).getLast?.map Text.upper).getD c.threshold := by
  induction calls generalizing c with
  | nil => rfl
  | cons call calls ih =>
    refine ih.trans ?_
    rw [obey_threshold]
    -- the level of `call` has the last word iff no later call sets one
    cases hl : call.level? with
    | none => rw [List.filterMap_cons_none hl]; rfl
    | some level =>
      rw [List.filterMap_cons_some hl, List.getLast?_cons]
      cases (calls.filterMap Call.level?).getLast? <;> rfl

theorem length_answers : (c.answers elapsed calls).length = calls.length := by
  induction calls generalizing c with
  | nil => rfl
  | cons call calls ih => exact congrArg (· + 1) ih

/-- The calls before it decide how a call is answered. -/
theorem answers_getElem? (k : Nat) : (c.answers elapsed calls)[k]? =
    calls[k]?.map ((c.after (calls.take k)).answer elapsed) := by
  induction calls generalizing c k with
  | nil => rfl
  | cons call calls ih =>
    cases k with
    | zero => rfl
    | succ k => exact ih k

/-- Without a change of threshold the messages that it lets through are written. -/
theorem output_of_steady (h : ∀ call ∈ calls, call.IsSteady) : c.output elapsed calls =
    ((calls.filterMap Call.message?).filter fun m => c.isEnabledFor m.level).map (c.line elapsed) := by
  induction calls with
  | nil => rfl
  | cons call calls ih =>
    have hcall : call.IsSteady := h call (List.mem_cons_self ..)
    have hrest := ih fun d hd => h d (List.mem_cons_of_mem _ hd)
    unfold output at hrest ⊢
    rw [answers, obey_of_steady hcall, List.filterMap_cons, hrest, answer_eq]
    cases hm : call.message? with
    | none => rw [List.filterMap_cons_none hm]; rfl
    | some m =>
      rw [List.filterMap_cons_some hm, List.filter_cons]
      cases hb : c.isEnabledFor m.level <;> simp [hb]

/-! ## Opened consoles -/

theorem initialThreshold_eq (asked environment : Option String) :
    initialThreshold asked environment =
      Text.upper ((asked.filter (· ≠ "") <|> environment).getD "INFO") := by
  unfold initialThreshold
  split
  · rfl
  · rfl
  · next level hne =>
    have hlevel : level ≠ "" := hne
    rw [Option.filter_some, if_pos (decide_eq_true hlevel)]
    rfl

/-- What a console is opened with. -/
structure Opening where
  name : String
  /-- the level asked for -/
  asked : Option String
  /-- the level in the environment -/
  environment : Option String
  colours : Bool
  stamps : Bool
  terminal : Bool
  /-- the hundredths of a second since it was opened, at every moment -/
  elapsed : Int → Int

namespace Opening

/-- The console that is opened. -/
def console (o : Opening) : Console :=
  .start o.name o.asked o.environment o.colours o.stamps o.terminal

/-- The level after some calls: the last one set, else one that is asked for, else
    that of the environment, else information. -/
def level (o : Opening) (calls : List Call) : String :=
  (calls.filterMap Call.level?).getLast?.getD
    ((o.asked.filter (· ≠ "") <|> o.environment).getD "INFO")

theorem threshold_eq (o : Opening) (calls : List Call) :
    (o.console.after calls).threshold = Text.upper (o.level calls) := by
  rw [threshold_after, level]
  cases (calls.filterMap Call.level?).getLast? with
  | none => exact initialThreshold_eq o.asked o.environment
  | some level => rfl

/-- **Levels filter messages by rank.**  Every call is answered with one line if it
    brings a message that ranks at least as high as the current level, and with none
    otherwise.  Of the same messages the console whose level ranks higher writes some
    of those that the other writes, in the same order. -/
theorem filtered_by_rank :
    (∀ (o : Opening) (calls : List Call),
      (o.console.after calls).threshold = Text.upper (o.level calls) ∧
      (o.console.answers o.elapsed calls).length = calls.length ∧
      ∀ (k : Nat) (call : Call), calls[k]? = some call →
        (o.console.answers o.elapsed calls)[k]? = some (call.message?.bind fun m =>
          if rankOf (o.level (calls.take k)) ≤ rankOf m.level then
            some (o.console.line o.elapsed m)
          else none)) ∧
    ∀ (o o' : Opening) (before before' calls : List Call), (∀ call ∈ calls, call.IsSteady) →
      rankOf (o'.level before') ≤ rankOf (o.level before) →
      ∃ ms ms' : List Message,
        ms.Sublist ms' ∧ ms'.Sublist (calls.filterMap Call.message?) ∧
        (o.console.after before).output o.elapsed calls = ms.map (o.console.line o.elapsed) ∧
        (o'.console.after before').output o'.elapsed calls =
          ms'.map (o'.console.line o'.elapsed) := by
  refine ⟨fun o calls => ⟨o.threshold_eq calls, length_answers, ?_⟩, ?_⟩
  · intro k call hcall
    rw [answers_getElem?, hcall, Option.map_some, answer_eq, after_line]
    simp only [isEnabledFor_iff (o.threshold_eq (calls.take k))]
  · intro o o' before before' calls hsteady hrank
    have hpasses : ∀ m : Message, (o.console.after before).isEnabledFor m.level = true →
        (o'.console.after before').isEnabledFor m.level = true := by
      intro m hm
      rw [isEnabledFor_iff (o.threshold_eq before)] at hm
      exact (isEnabledFor_iff (o'.threshold_eq before') _).2 (Nat.le_trans hrank hm)
    refine ⟨((calls.filterMap Call.message?).filter fun m =>
        (o'.console.after before').isEnabledFor m.level).filter fun m =>
        (o.console.after before).isEnabledFor m.level, _,
      List.filter_sublist, List.filter_sublist, ?_, ?_⟩
    · rw [output_of_steady hsteady, after_line, List.filter_filter]
      refine congrArg _ (List.filter_congr fun m _ => ?_)
      rw [Bool.eq_iff_iff, Bool.and_eq_true]
      exact ⟨fun hm => ⟨hm, hpasses m hm⟩, And.left⟩
    · rw [output_of_steady hsteady, after_line]

/-- A console at the level of the environment. -/
def ofEnvironment (name level : String) : Opening :=
  ⟨name, none, some level, false, false, false, id⟩

/-- A console that is set to warnings writes an error and no information, and when
    set to an unknown level a message at another; of the first two messages it writes
    no more at warnings than at the unknown level. -/
theorem warnings_filtered :
    let o := ofEnvironment "oven" "critical"
    let hot : Message := ⟨0, "error", "hot"⟩
    let warm : Message := ⟨1, "INFO", "warm"⟩
    let calls : List Call := [.setLevel "Warning", .log hot, .report .info 1 "warm",
      .setLevel "chatty", .log ⟨2, "aside", "cold"⟩]
    (o.console.after calls).threshold = "CHATTY" ∧
      (o.console.answers o.elapsed calls)[1]? = some (some "[   error][oven] hot") ∧
      (o.console.answers o.elapsed calls)[2]? = some none ∧
      (o.console.answers o.elapsed calls)[4]? = some (some "[   aside][oven] cold") ∧
      ∃ ms ms' : List Message, ms.Sublist ms' ∧ ms'.Sublist [hot, warm] ∧
        (o.console.after [.setLevel "Warning"]).output o.elapsed [.log hot, .log warm] =
          ms.map (o.console.line o.elapsed) ∧
        (o.console.after [.setLevel "chatty"]).output o.elapsed [.log hot, .log warm] =
          ms'.map (o.console.line o.elapsed) := by
  intro o hot warm calls
  obtain ⟨hthreshold, -, hanswers⟩ := filtered_by_rank.1 o calls
  refine ⟨hthreshold.trans ?_, (hanswers 1 _ rfl).trans ?_, (hanswers 2 _ rfl).trans ?_,
    (hanswers 4 _ rfl).trans ?_, filtered_by_rank.2 o o [.setLevel "Warning"] [.setLevel "chatty"]
      [.log hot, .log warm] ?_ ?_⟩
  all_goals decide +kernel

end Opening

end Console

end Chip8
