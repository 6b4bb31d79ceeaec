/-
  Which keys are held.

  Of a batch of events those before the user quits are `processed`.  A key is held iff
  the last processed event that concerns it pressed it down, in whichever batch that
  was and by whichever of the names that stand for the key.

  * `held_foldl`: reacting to events, a key becomes what the last event that concerns
    it says, or stays as it was;
  * `poll_eq`: a poll reacts to what is processed of its batch, and gives no keys iff
    the user quits in it;
  * `after_eq`: some polls react to all that was processed in their batches;
  * `keys_tracked`: the keys held and the keys given after any number of polls.
-/
import Chip8.Keyboard

namespace Chip8

/-- The events of a batch before the one at which the user quits. -/
def InputEvent.processed (batch : List InputEvent) : List InputEvent :=
  batch.takeWhile fun e => !e.isQuit

def InputEvent.isDown : InputEvent → Bool
  | .down _ => true
  | .up _ | .quit | .other => false

/-- Whether an event presses or releases a key that stands for a hexadecimal key. -/
def KeyMap.concerns (map : KeyMap) (h : Nibble) : InputEvent → Bool
  | .down name | .up name => map.key? name = some h
  | .quit | .other => false

namespace Keyboard

open InputEvent (processed)

variable {k : Keyboard} {e : InputEvent} {es : List InputEvent} {h : Nibble}

/-! ## Reacting to events -/

theorem setKey_map (k : Keyboard) (name : String) (isHeld : Bool) :
    (k.setKey name isHeld).map = k.map := by
  unfold setKey
  split <;> rfl

theorem held_setKey (k : Keyboard) (name : String) (isHeld : Bool) (h : Nibble) :
    (k.setKey name isHeld).held[h] = if k.map.key? name = some h then isHeld else k.held[h] := by
  unfold setKey
  split
  · next hk => rw [hk, if_neg (by simp)]
  · next key hk =>
    simp only [hk, Option.some.injEq, Keypad.setKey, Keypad.getElem_eq, Vector.getElem_set,
      Fin.ext_iff]

theorem react_map (k : Keyboard) (e : InputEvent) : (k.react e).map = k.map := by
  cases e with
  | down name => exact k.setKey_map name true
  | up name => exact k.setKey_map name false
  | quit | other => rfl

/-- An event decides about the key that it concerns and no other. -/
theorem held_react (k : Keyboard) (e : InputEvent) (h : Nibble) :
    (k.react e).held[h] = if k.map.concerns h e then e.isDown else k.held[h] := by
  cases e with
  | down name => simp only [react, held_setKey, KeyMap.concerns, InputEvent.isDown, decide_eq_true_eq]
  | up name => simp only [react, held_setKey, KeyMap.concerns, InputEvent.isDown, decide_eq_true_eq]
  | quit | other => rfl

theorem react_of_not_concerns (he : ∀ h, k.map.concerns h e = false) : k.react e = k := by
  have hnone : ∀ name, (∀ h, decide (k.map.key? name = some h) = false) →
      ∀ isHeld, k.setKey name isHeld = k := by
    intro name hname isHeld
    unfold setKey
    split
    · rfl
    · next key hk => simpa [hk] using hname key
  cases e with
  | down name => exact hnone name he true
  | up name => exact hnone name he false
  | quit | other => rfl

theorem foldl_map (k : Keyboard) (es : List InputEvent) : (es.foldl react k).map = k.map := by
  induction es generalizing k with
  | nil => rfl
  | cons e es ih => rw [List.foldl_cons, ih, react_map]

/-- The last event that concerns a key decides about it. -/
theorem held_foldl (k : Keyboard) (es : List InputEvent) (h : Nibble) :
    (es.foldl react k).held[h] =
      ((es.filter (k.map.concerns h)).getLast?.map InputEvent.isDown).getD k.held[h] := by
  induction es generalizing k with
  | nil => rfl
  | cons e es ih =>
    rw [List.foldl_cons, ih, react_map, held_react]
    -- `e` has the last word iff it concerns the key and no later event does
    by_cases he : k.map.concerns h e = true
    · rw [if_pos he, List.filter_cons_of_pos he, List.getLast?_cons]
      cases (es.filter (k.map.concerns h)).getLast? <;> rfl
    · rw [if_neg he, List.filter_cons_of_neg he]

/-! ## Polls -/

theorem any_isQuit_iff {batch : List InputEvent} :
    batch.any InputEvent.isQuit = true ↔
      InputEvent.quit ∈ batch ∨ InputEvent.down "ESCAPE" ∈ batch := by
  simp only [List.any_eq_true, InputEvent.isQuit, Bool.or_eq_true, decide_eq_true_eq]
  constructor
  · rintro ⟨e, he, rfl | rfl⟩
    · exact .inl he
    · exact .inr he
  · rintro (he | he)
    · exact ⟨_, he, .inl rfl⟩
    · exact ⟨_, he, .inr rfl⟩

theorem poll_eq (k : Keyboard) (batch : List InputEvent) :
    k.poll batch = ((processed batch).foldl react k,
      if batch.any InputEvent.isQuit then none else some ((processed batch).foldl react k).held) := by
  induction batch generalizing k with
  | nil => rfl
  | cons e es ih =>
    cases he : e.isQuit with
    | true => simp [poll, processed, he]
    | false => simp [poll, processed, he, ih]

/-- The keyboard after some polls. -/
def after (k : Keyboard) (batches : List (List InputEvent)) : Keyboard :=
  batches.foldl (fun k batch => (k.poll batch).1) k

theorem after_eq (k : Keyboard) (batches : List (List InputEvent)) :
    k.after batches = (batches.flatMap processed).foldl react k := by
  unfold after
  induction batches generalizing k with
  | nil => rfl
  | cons batch batches ih =>
    rw [List.foldl_cons, ih, poll_eq, List.flatMap_cons, List.foldl_append]

/-- An event that neither quits nor concerns a key may as well be left out. -/
theorem poll_skip {as bs : List InputEvent} (hq : e.isQuit = false)
    (he : ∀ h, k.map.concerns h e = false) : k.poll (as ++ e :: bs) = k.poll (as ++ bs) := by
  induction as generalizing k with
  | nil =>
    show k.poll (e :: bs) = k.poll bs
    simp only [poll, hq, Bool.false_eq_true, if_false, react_of_not_concerns he]
  | cons a as ih =>
    simp only [List.cons_append, poll]
    rw [ih (by rwa [react_map])]

/-- **Which keys are held.**  After any number of polls a key is held iff the last of all
    processed events that concern it pressed it down.  A poll gives the keys then held,
    unless the user quits in its batch.  It does not matter where a batch is cut in two
    in which the user does not quit, nor what happens to keys that stand for none. -/
theorem keys_tracked (given : Option KeyMap) (batches : List (List InputEvent)) :
    let first := start given
    let k := first.after batches
    first.map = (if given.getD [] = [] then .standard else given.getD []) ∧
    (∀ h : Nibble, k.held[h] = true ↔ ∃ name,
      ((batches.flatMap processed).filter (first.map.concerns h)).getLast? = some (.down name)) ∧
    (∀ batch, (k.poll batch).2 =
      if .quit ∈ batch ∨ .down "ESCAPE" ∈ batch then none else some (k.poll batch).1.held) ∧
    (∀ as bs : List InputEvent, .quit ∉ as ++ bs → .down "ESCAPE" ∉ as ++ bs →
      (k.poll as).1.poll bs = k.poll (as ++ bs)) ∧
    ∀ as e bs, e ≠ .quit → e ≠ .down "ESCAPE" → (∀ h, first.map.concerns h e = false) →
      k.poll (as ++ e :: bs) = k.poll (as ++ bs) := by
  intro first k
  have hk : k = (batches.flatMap processed).foldl react first := first.after_eq batches
  refine ⟨?_, ?_, ?_, ?_, ?_⟩
  · cases given with
    | none => rfl
    | some map => cases map <;> rfl
  · intro h
    have hnone : first.held[h] = false := by simp [first, start]
    rw [hk, held_foldl, hnone]
    -- of the events that concern a key only presses are down
    cases hlast : ((batches.flatMap processed).filter (first.map.concerns h)).getLast? with
    | none => simp
    | some e => cases e <;> simp [InputEvent.isDown]
  · intro batch
    rw [poll_eq]
    simp only [any_isQuit_iff]
  · intro as bs hquit hescape
    have hnone : ∀ e ∈ as ++ bs, e.isQuit = false := by
      intro e he
      refine Bool.eq_false_iff.2 fun h => ?_
      rcases any_isQuit_iff.1 (List.any_eq_true.2 ⟨e, he, h⟩) with h | h
      · exact hquit h
      · exact hescape h
    exact (poll_append hnone).symm
  · intro as e bs hquit hescape he
    have hmap : k.map = first.map := by rw [hk, foldl_map]
    refine poll_skip ?_ (hmap ▸ he)
    simp [InputEvent.isQuit, hquit, hescape]

/-- Two keys that stand for one: it is held though the first of them was released, and
    the release behind an Escape is lost.  Letting go of Escape is no quit. -/
theorem escape_loses_release : ∃ k, k = (start (some [("q", 3), ("w", 3)])).after
      [[.down "q", .down "w", .up "q"], [.down "w", .down "ESCAPE", .up "w"]] ∧
    k.held[(3 : Nibble)] = true ∧ (k.poll [.down "q", .quit]).2 = none ∧
    (k.poll [.up "w"]).1.poll [.other, .down "q"] = k.poll [.up "w", .other, .down "q"] ∧
    k.poll [.up "w", .up "ESCAPE", .down "q"] = k.poll [.up "w", .down "q"] := by
  obtain ⟨-, hheld, hpoll, hcut, hskip⟩ := keys_tracked (some [("q", 3), ("w", 3)])
    [[.down "q", .down "w", .up "q"], [.down "w", .down "ESCAPE", .up "w"]]
  refine ⟨_, rfl, (hheld 3).2 ⟨"w", by decide +kernel⟩, ?_, hcut [.up "w"] [.other, .down "q"]
    (by decide) (by decide), hskip [.up "w"] (.up "ESCAPE") [.down "q"] (by decide) (by decide)
    (by decide +kernel)⟩
  rw [hpoll, if_pos (.inl (by decide))]

end Keyboard

end Chip8
