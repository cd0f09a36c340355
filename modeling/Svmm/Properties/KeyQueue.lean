import Mathlib.Data.List.GetD
import Mathlib.Data.List.Induction
import Svmm.Construction.KeyQueue
import Svmm.Properties.Ps2Keys

/-!
# From the window to the keyboard

The ring of key events is a queue of at most 19, and whatever order messages and turns of the main
loop come in, what the main loop hands on is what the window has put in, in order; events are lost
only to a full queue.  What is put in holds no second press of a modifier key without a release, and
what a key sends in the end is the code that Windows has for it.
-/

namespace Svmm

/-! ## The queue behind the ring -/

/-- Append, unless the queue has as many events as fit. -/
def boundedPut (x : BitVec 32) (q : List (BitVec 32)) : List (BitVec 32) :=
  if q.length + 1 = scancodeBufsize then q else q ++ [x]

/-- Append, without a bound. -/
def record (x : BitVec 32) (q : List (BitVec 32)) : List (BitVec 32) := q ++ [x]

/-- The window with its events in a queue. -/
structure KeyQueue where
  keys : KeyState (List (BitVec 32))
  target : KeyTarget

/-- One message: an event is appended if there is room for it, and a turn of the main loop takes all
that wait. -/
def queueStep (s : KeyQueue) (m : WindowMessage) : KeyQueue :=
  match m.event with
  | some (key, pressRelease) => { s with keys := enqKeyEvent boundedPut key pressRelease s.keys }
  | none =>
      { keys := { s.keys with events := [] }
        target := s.keys.events.foldl handleKeyEvent s.target }

/-- The queue of a window. -/
def KeyWindow.queue (s : KeyWindow) : KeyQueue :=
  { keys := { events := s.keys.events.contents, pressed := s.keys.pressed }, target := s.target }

section Naturality

variable {ρ ρ' : Type} {store : BitVec 32 → ρ → ρ} {store' : BitVec 32 → ρ' → ρ'} {g : ρ → ρ'}

def KeyState.map (g : ρ → ρ') (s : KeyState ρ) : KeyState ρ' :=
  { events := g s.events, pressed := s.pressed }

variable (hg : ∀ x r, g (store x r) = store' x (g r)) (key pressRelease : BitVec 32)
  (s : KeyState ρ)

include hg

lemma put_map : (s.put store key pressRelease).map g = (s.map g).put store' key pressRelease := by
  show (⟨g (store (key ||| pressRelease) s.events), s.pressed⟩ : KeyState ρ') = _
  rw [hg]
  rfl

lemma enqReleased_map : (enqReleased store key pressRelease s).map g =
    enqReleased store' key pressRelease (s.map g) := by
  unfold enqReleased
  have hput (s : KeyState ρ) := put_map hg key pressRelease s
  split
  · show (if s.pressed .ctrlL then _ else _ : KeyState ρ).map g =
      if s.pressed .ctrlL then _ else _
    split
    · exact hput _
    · rfl
  · exact hput _
  · exact hput s

lemma enqPressed_map : (enqPressed store key s).map g = enqPressed store' key (s.map g) := by
  unfold enqPressed
  have hput (s : KeyState ρ) := put_map hg key bxPressed s
  split
  · rename_i m _
    show (if s.pressed m then s else _ : KeyState ρ).map g = if s.pressed m then _ else _
    split
    · rfl
    · show (KeyState.put store key bxPressed (KeyState.setPressed m true
        (if m = .altR ∧ s.pressed .ctrlL then _ else s))).map g = KeyState.put store' key bxPressed
          (KeyState.setPressed m true (if m = .altR ∧ s.pressed .ctrlL then _ else s.map g))
      split
      · rw [hput, ← enqReleased_map hg]
        rfl
      · rw [hput]
        rfl
  · exact hput s

/-- What `enq_key_event` does does not depend on how the events are kept. -/
lemma enqKeyEvent_map : (enqKeyEvent store key pressRelease s).map g =
    enqKeyEvent store' key pressRelease (s.map g) := by
  unfold enqKeyEvent
  split
  · exact put_map hg key pressRelease _
  · split
    · exact enqPressed_map hg key s
    · exact enqReleased_map hg key pressRelease s

end Naturality

/-! ## The ring is the queue -/

lemma contents_push_eq (x : BitVec 32) (r : RingBuffer (BitVec 32) scancodeBufsize) :
    (r.push x).contents = boundedPut x r.contents := r.contents_push x

/-- The loop takes all that wait, in order. -/
lemma handleKeyEvents_queue {n : ℕ} (s : KeyWindow) (hn : s.keys.events.contents.length ≤ n) :
    (handleKeyEvents n s).queue =
      { keys := { s.queue.keys with events := [] }
        target := s.queue.keys.events.foldl handleKeyEvent s.target } := by
  induction n generalizing s with
  | zero =>
      have hempty : s.keys.events.contents = [] := List.length_eq_zero_iff.mp (Nat.le_zero.mp hn)
      show (⟨⟨s.keys.events.contents, _⟩, _⟩ : KeyQueue) =
        ⟨⟨[], _⟩, s.keys.events.contents.foldl _ _⟩
      rw [hempty]
      rfl
  | succ n ih =>
      rw [handleKeyEvents]
      rcases s.keys.events.pop_eq with ⟨hpop, hempty⟩ | ⟨key, ring, hpop, hcontents⟩
      · rw [hpop]
        show (⟨⟨s.keys.events.contents, _⟩, _⟩ : KeyQueue) =
          ⟨⟨[], _⟩, s.keys.events.contents.foldl _ _⟩
        rw [hempty]
        rfl
      · rw [hpop]
        have hlength : ring.contents.length ≤ n := by
          rw [hcontents, List.length_cons] at hn
          omega
        rw [ih _ hlength]
        show (⟨_, ring.contents.foldl _ _⟩ : KeyQueue) = ⟨_, s.keys.events.contents.foldl _ _⟩
        rw [hcontents]
        rfl

/-- No more events wait than the ring has slots. -/
lemma length_contents_le (s : KeyWindow) : s.keys.events.contents.length ≤ scancodeBufsize := by
  have hhead := s.keys.events.head_lt
  have htail := s.keys.events.tail_lt
  rw [RingBuffer.length_contents, RingBuffer.count]
  split <;> omega

/-- A message does to the window what it does to the queue. -/
lemma queue_windowStep (s : KeyWindow) (m : WindowMessage) :
    (windowStep s m).queue = queueStep s.queue m := by
  unfold windowStep queueStep
  cases m.event with
  | none => exact handleKeyEvents_queue s (length_contents_le s)
  | some event =>
      have hmap := enqKeyEvent_map contents_push_eq event.1 event.2 s.keys
      show (⟨KeyState.map RingBuffer.contents _, s.target⟩ : KeyQueue) = ⟨_, s.target⟩
      rw [hmap]
      rfl

/-- Whatever messages come, in whatever order, the window with its ring is one with a queue of at
most 19 events. -/
theorem window_refines_queue (s : KeyWindow) (ms : List WindowMessage) :
    (ms.foldl windowStep s).queue = ms.foldl queueStep s.queue := by
  induction ms generalizing s with
  | nil => rfl
  | cons m ms ih => rw [List.foldl_cons, List.foldl_cons, ih, queue_windowStep]

/-! ## What is handed on -/

/-- The events that a message puts in, and the flags after it. -/
def admitted (pressed : Modifier → Bool) (m : WindowMessage) : KeyState (List (BitVec 32)) :=
  match m.event with
  | some (key, pressRelease) => enqKeyEvent record key pressRelease ⟨[], pressed⟩
  | none => ⟨[], pressed⟩

/-- The events that messages put in, and the flags after them. -/
def admittedAll (pressed : Modifier → Bool) (ms : List WindowMessage) :
    KeyState (List (BitVec 32)) :=
  ms.foldl (fun s m =>
    let next := admitted s.pressed m
    { next with events := s.events ++ next.events }) ⟨[], pressed⟩

/-- The events that the loop of `handle_events` takes out of the ring and hands over, for a number
of events. -/
def eventsTaken : ℕ → KeyWindow → List (BitVec 32)
  | 0, _ => []
  | n + 1, s =>
      match s.keys.events.pop with
      | none => []
      | some (key, ring) =>
          key :: eventsTaken n
            { keys := { s.keys with events := ring }, target := handleKeyEvent s.target key }

/-- The events that are handed over at a message. -/
def messageTaken (s : KeyWindow) (m : WindowMessage) : List (BitVec 32) :=
  match m.event with
  | some _ => []
  | none => eventsTaken scancodeBufsize s

/-- The events that are handed over in a run of messages. -/
def handedOver : KeyWindow → List WindowMessage → List (BitVec 32)
  | _, [] => []
  | s, m :: ms => messageTaken s m ++ handedOver (windowStep s m) ms

/-- There is room for the events of every message. -/
def HasRoom : KeyQueue → List WindowMessage → Prop
  | _, [] => True
  | s, m :: ms =>
      s.keys.events.length + (admitted s.keys.pressed m).events.length < scancodeBufsize ∧
        HasRoom (queueStep s m) ms

instance decidableHasRoom (s : KeyQueue) (ms : List WindowMessage) : Decidable (HasRoom s ms) :=
  match ms with
  | [] => .isTrue trivial
  | m :: ms =>
      have := decidableHasRoom (queueStep s m) ms
      inferInstanceAs (Decidable (_ ∧ _))

section Order

variable {s : KeyQueue} {m : WindowMessage}

/-- `enq_key_event` stores its events one after the other. -/
lemma enqKeyEvent_eq {ρ : Type} (store : BitVec 32 → ρ → ρ) (key pressRelease : BitVec 32)
    (r : ρ) (pressed : Modifier → Bool) :
    enqKeyEvent store key pressRelease ⟨r, pressed⟩ =
      (enqKeyEvent record key pressRelease ⟨[], pressed⟩).map
        fun events => events.foldl (fun r x => store x r) r := by
  have hstore (x : BitVec 32) (events : List (BitVec 32)) :
      (record x events).foldl (fun r x => store x r) r =
        store x (events.foldl (fun r x => store x r) r) := by
    rw [record, List.foldl_append]
    rfl
  rw [enqKeyEvent_map hstore]
  rfl

lemma foldl_boundedPut_sublist (events q : List (BitVec 32)) :
    (events.foldl (fun q x => boundedPut x q) q).Sublist (q ++ events) := by
  induction events generalizing q with
  | nil => rw [List.append_nil]; exact .refl q
  | cons x events ih =>
      rw [List.foldl_cons]
      refine (ih _).trans ?_
      rw [boundedPut]
      split
      · exact List.Sublist.append_left (List.sublist_cons_self x events) q
      · rw [List.append_assoc, List.singleton_append]

lemma foldl_boundedPut_eq {events q : List (BitVec 32)}
    (h : q.length + events.length < scancodeBufsize) :
    events.foldl (fun q x => boundedPut x q) q = q ++ events := by
  induction events generalizing q with
  | nil => rw [List.append_nil]; rfl
  | cons x events ih =>
      rw [List.length_cons] at h
      have hroom : boundedPut x q = q ++ [x] := if_neg (by omega)
      rw [List.foldl_cons, hroom, ih (by rw [List.length_append, List.length_singleton]; omega),
        List.append_assoc, List.singleton_append]

/-- The events that a message takes from the queue. -/
def queueTaken (s : KeyQueue) (m : WindowMessage) : List (BitVec 32) :=
  match m.event with
  | some _ => []
  | none => s.keys.events

/-- The events that a run takes from the queue. -/
def queueHanded : KeyQueue → List WindowMessage → List (BitVec 32)
  | _, [] => []
  | s, m :: ms => queueTaken s m ++ queueHanded (queueStep s m) ms

lemma queueHanded_append (s : KeyQueue) (ms : List WindowMessage) (m : WindowMessage) :
    queueHanded s (ms ++ [m]) = queueHanded s ms ++ queueTaken (ms.foldl queueStep s) m := by
  induction ms generalizing s with
  | nil => exact List.append_nil _
  | cons m' ms ih =>
      show queueTaken s m' ++ queueHanded (queueStep s m') (ms ++ [m]) = _
      rw [ih, ← List.append_assoc]
      rfl

/-- The loop takes the events of the queue from its front. -/
lemma eventsTaken_eq {n : ℕ} (s : KeyWindow) (hn : s.keys.events.contents.length ≤ n) :
    eventsTaken n s = s.queue.keys.events := by
  show _ = s.keys.events.contents
  induction n generalizing s with
  | zero => exact (List.length_eq_zero_iff.mp (Nat.le_zero.mp hn)).symm
  | succ n ih =>
      rw [eventsTaken]
      rcases s.keys.events.pop_eq with ⟨hpop, hempty⟩ | ⟨key, ring, hpop, hcontents⟩
      · rw [hpop, hempty]
      · rw [hcontents, List.length_cons] at hn
        rw [hpop, hcontents]
        exact congrArg (key :: ·) (ih _ (Nat.le_of_succ_le_succ hn))

/-- What the window hands over is what the queue does. -/
lemma handedOver_eq (s : KeyWindow) (ms : List WindowMessage) :
    handedOver s ms = queueHanded s.queue ms := by
  induction ms generalizing s with
  | nil => rfl
  | cons m ms ih =>
      have htaken : messageTaken s m = queueTaken s.queue m := by
        unfold messageTaken queueTaken
        cases m.event with
        | none => exact eventsTaken_eq s (length_contents_le s)
        | some event => rfl
      rw [handedOver, ih, queue_windowStep, htaken]
      rfl

/-- What a message does: what is handed on are events from the front of the queue, and what is put
in goes behind. -/
lemma queueStep_order (s : KeyQueue) (m : WindowMessage) :
    (queueStep s m).target = (queueTaken s m).foldl handleKeyEvent s.target ∧
      (queueStep s m).keys.pressed = (admitted s.keys.pressed m).pressed ∧
      (queueTaken s m ++ (queueStep s m).keys.events).Sublist
        (s.keys.events ++ (admitted s.keys.pressed m).events) ∧
      (s.keys.events.length + (admitted s.keys.pressed m).events.length < scancodeBufsize →
        queueTaken s m ++ (queueStep s m).keys.events =
          s.keys.events ++ (admitted s.keys.pressed m).events) := by
  unfold queueStep admitted queueTaken
  cases m.event with
  | none =>
      refine ⟨rfl, rfl, ?_, fun _ => rfl⟩
      exact .refl _
  | some event =>
      have hkeys := enqKeyEvent_eq boundedPut event.1 event.2 s.keys.events s.keys.pressed
      have hevents := congrArg KeyState.events hkeys
      have hpressed := congrArg KeyState.pressed hkeys
      refine ⟨rfl, hpressed, ?_, fun hroom => ?_⟩
      · show (enqKeyEvent boundedPut event.1 event.2 s.keys).events.Sublist _
        rw [hevents]
        exact foldl_boundedPut_sublist _ _
      · show (enqKeyEvent boundedPut event.1 event.2 s.keys).events = _
        rw [hevents]
        exact foldl_boundedPut_eq hroom

lemma admittedAll_append (pressed : Modifier → Bool) (ms : List WindowMessage) (m : WindowMessage) :
    admittedAll pressed (ms ++ [m]) =
      { admitted (admittedAll pressed ms).pressed m with
        events := (admittedAll pressed ms).events ++
          (admitted (admittedAll pressed ms).pressed m).events } := by
  rw [admittedAll, List.foldl_append]
  rfl

lemma hasRoom_append {s : KeyQueue} {ms : List WindowMessage} {m : WindowMessage}
    (h : HasRoom s (ms ++ [m])) :
    HasRoom s ms ∧ (ms.foldl queueStep s).keys.events.length +
      (admitted (ms.foldl queueStep s).keys.pressed m).events.length < scancodeBufsize := by
  induction ms generalizing s with
  | nil => exact ⟨trivial, h.1⟩
  | cons m' ms ih =>
      obtain ⟨hroom, hlast⟩ := ih h.2
      exact ⟨⟨h.1, hroom⟩, hlast⟩

/-- The order of a run of the queue. -/
lemma queue_order (pressed : Modifier → Bool) (target : KeyTarget) (ms : List WindowMessage) :
    let start : KeyQueue := ⟨⟨[], pressed⟩, target⟩
    let s := ms.foldl queueStep start
    s.target = (queueHanded start ms).foldl handleKeyEvent target ∧
      s.keys.pressed = (admittedAll pressed ms).pressed ∧
      (queueHanded start ms ++ s.keys.events).Sublist (admittedAll pressed ms).events ∧
      (HasRoom start ms →
        queueHanded start ms ++ s.keys.events = (admittedAll pressed ms).events) := by
  intro start s
  induction ms using List.reverseRecOn with
  | nil => exact ⟨rfl, rfl, .refl _, fun _ => rfl⟩
  | append_singleton ms m ih =>
      obtain ⟨htarget, hpressed, hsublist, hroom⟩ := ih
      set u := ms.foldl queueStep start
      obtain ⟨htarget', hpressed', hsublist', hroom'⟩ := queueStep_order u m
      have hlast : s = queueStep u m := List.foldl_concat queueStep start m ms
      rw [hlast, admittedAll_append, queueHanded_append, ← hpressed]
      refine ⟨?_, hpressed', ?_, fun h => ?_⟩
      · rw [htarget', htarget, List.foldl_append]
      · rw [List.append_assoc]
        refine (List.Sublist.append_left hsublist' _).trans ?_
        rw [← List.append_assoc]
        exact List.Sublist.append_right hsublist _
      · obtain ⟨hbefore, hnow⟩ := hasRoom_append h
        rw [List.append_assoc, hroom' hnow, ← List.append_assoc, hroom hbefore]

end Order

/-- The window before the first message. -/
def KeyWindow.start (target : KeyTarget) : KeyWindow :=
  { keys := { events := RingBuffer.start (fun _ => 0) (by decide), pressed := fun _ => false }
    target := target }

/-- In every run of messages the events that the main loop takes out of the ring are what the
keyboard is handed; these, with those that wait in the ring behind them, are events that were put
in, in their order, and they are all of them when there was room for each. -/
theorem window_delivers_in_order (target : KeyTarget) (ms : List WindowMessage) :
    let s := ms.foldl windowStep (.start target)
    let delivered := handedOver (.start target) ms
    s.target = delivered.foldl handleKeyEvent target ∧
      (delivered ++ s.keys.events.contents).Sublist (admittedAll (fun _ => false) ms).events ∧
      (HasRoom (KeyWindow.start target).queue ms →
        delivered ++ s.keys.events.contents = (admittedAll (fun _ => false) ms).events) := by
  intro s delivered
  obtain ⟨htarget, -, hsublist, hroom⟩ := queue_order (fun _ => false) target ms
  have hstart : (KeyWindow.start target).queue = ⟨⟨[], fun _ => false⟩, target⟩ := rfl
  have hqueue : (ms.foldl windowStep (.start target)).queue =
      ms.foldl queueStep (KeyWindow.start target).queue :=
    (List.foldl_hom KeyWindow.queue fun s m => (queue_windowStep s m).symm).symm
  have hhanded := handedOver_eq (.start target) ms
  rw [hstart] at hqueue hhanded
  rw [← hqueue, ← hhanded] at htarget hsublist hroom
  exact ⟨htarget, hsublist, hroom⟩

/-! ## Modifier keys -/

/-- What an event is for a modifier key. -/
inductive ModifierEvent where
  | press
  | release
  | reset
  deriving DecidableEq, Repr

namespace Modifier

/-- A press or a release of the key, or the loss of the focus. -/
def eventOf (m : Modifier) (x : BitVec 32) : Option ModifierEvent :=
  if x = m.code then some .press
  else if x = m.code ||| bxReleased then some .release
  else if x = focusChanged then some .reset else none

/-- The events of a modifier key. -/
def log (m : Modifier) (events : List (BitVec 32)) : List ModifierEvent :=
  events.filterMap m.eventOf

/-- What a keyboard that sends no repeats does, by whether the key is down: no press of a key that
is down, and no release of the left control key, which Windows makes up, if it is not. -/
def next (m : Modifier) (down : Bool) : ModifierEvent → Option Bool
  | .press => if down then none else some true
  | .release => if m = .ctrlL ∧ down = false then none else some false
  | .reset => some false

lemma ofKey_eq_some {key : BitVec 32} {m : Modifier} (h : ofKey key = some m) : key = m.code := by
  have heq := List.find?_some h
  exact (eq_of_beq heq).symm

lemma ofKey_code (m : Modifier) : ofKey m.code = some m := by
  cases m <;> rfl

lemma eventOf_code (m m' : Modifier) :
    m.eventOf (m'.code ||| bxPressed) = if m = m' then some .press else none := by
  cases m <;> cases m' <;> rfl

lemma eventOf_release (m m' : Modifier) :
    m.eventOf (m'.code ||| bxReleased) = if m = m' then some .release else none := by
  cases m <;> cases m' <;> rfl

lemma eventOf_focus (m : Modifier) : m.eventOf (0 ||| focusChanged) = some .reset := by
  cases m <;> rfl

/-- The events of mouse and toolbar have a bit that those of modifier keys have not. -/
lemma eventOf_of_has (m : Modifier) {x : BitVec 32} {i : ℕ} (hi : i = 27 ∨ i = 29)
    (h : Word.has x i = true) : m.eventOf x = none := by
  have hcode : Word.has m.code i = false := by rcases hi with rfl | rfl <;> cases m <;> rfl
  have hreleased : Word.has (m.code ||| bxReleased) i = false := by
    rcases hi with rfl | rfl <;> cases m <;> rfl
  have hfocus : Word.has focusChanged i = false := by rcases hi with rfl | rfl <;> rfl
  have hne {y : BitVec 32} (hy : Word.has y i = false) : ¬ x = y := by
    rintro rfl
    rw [h] at hy
    cases hy
  rw [eventOf, if_neg (hne hcode), if_neg (hne hreleased), if_neg (hne hfocus)]

/-- The events of other keys. -/
lemma eventOf_other (m : Modifier) {code : BitVec 9} (h : ofKey (code.setWidth 32) = none)
    (released : Bool) :
    m.eventOf (code.setWidth 32 ||| if released then bxReleased else bxPressed) = none := by
  have hne : code.setWidth 32 ≠ m.code := by
    intro heq
    rw [heq, ofKey_code] at h
    cases h
  have hhigh (i : ℕ) (hi : 9 ≤ i) : Word.has (code.setWidth 32) i = false := by
    rw [Word.has_eq_getLsbD, BitVec.getLsbD_setWidth, BitVec.getLsbD_of_ge _ _ hi, Bool.and_false]
  cases released with
  | false =>
      have hzero : code.setWidth 32 ||| bxPressed = code.setWidth 32 := BitVec.or_zero
      have hreleased : ¬ code.setWidth 32 = m.code ||| bxReleased := by
        intro heq
        have hbit := hhigh 31 (by decide)
        rw [heq] at hbit
        cases m <;> exact absurd hbit (by decide)
      have hfocus : ¬ code.setWidth 32 = focusChanged := by
        intro heq
        have hbit := hhigh 30 (by decide)
        rw [heq] at hbit
        exact absurd hbit (by decide)
      show m.eventOf (code.setWidth 32 ||| bxPressed) = none
      rw [hzero, eventOf, if_neg hne, if_neg hreleased, if_neg hfocus]
  | true =>
      have hpress : ¬ code.setWidth 32 ||| bxReleased = m.code := by
        intro heq
        have hbit : Word.has (code.setWidth 32 ||| bxReleased) 31 = true := by
          rw [Word.has_or]
          exact Bool.or_true _
        rw [heq] at hbit
        cases m <;> exact absurd hbit (by decide)
      have hrelease : ¬ code.setWidth 32 ||| bxReleased = m.code ||| bxReleased := by
        intro heq
        apply hne
        apply Word.ext_has
        intro i hi
        have hbit := congrArg (fun x => Word.has x i) heq
        simp only [Word.has_or] at hbit
        by_cases htop : i = 31
        · subst htop
          rw [hhigh 31 (by decide)]
          cases m <;> rfl
        · have hclear : ∀ i < 32, i ≠ 31 → Word.has bxReleased i = false := by decide
          rwa [hclear i hi htop, Bool.or_false, Bool.or_false] at hbit
      have hfocus : ¬ code.setWidth 32 ||| bxReleased = focusChanged := by
        intro heq
        have hbit := congrArg (fun x => Word.has x 30) heq
        simp only [Word.has_or, hhigh 30 (by decide)] at hbit
        exact absurd hbit (by decide)
      show m.eventOf (code.setWidth 32 ||| bxReleased) = none
      rw [eventOf, if_neg hpress, if_neg hrelease, if_neg hfocus]

/-- Events that go on from a state of a modifier key to another. -/
def Moves (m : Modifier) (down : Bool) (events : List (BitVec 32)) (down' : Bool) : Prop :=
  (m.log events).foldlM m.next down = some down'

lemma Moves.append {m : Modifier} {down down' down'' : Bool} {events events' : List (BitVec 32)}
    (h : m.Moves down events down') (h' : m.Moves down' events' down'') :
    m.Moves down (events ++ events') down'' := by
  unfold Moves log at *
  rw [List.filterMap_append, List.foldlM_append, h]
  exact h'

lemma Moves.nil (m : Modifier) (down : Bool) : m.Moves down [] down := rfl

/-- An event that is none of the key. -/
lemma moves_other {m : Modifier} {x : BitVec 32} (h : m.eventOf x = none) (down : Bool) :
    m.Moves down [x] down := by
  rw [Moves, log, List.filterMap_cons_none h]
  rfl

lemma moves_press (m m' : Modifier) (pressed : Modifier → Bool) (h : pressed m' = false) :
    m.Moves (pressed m) [m'.code ||| bxPressed] (Function.update pressed m' true m) := by
  by_cases hm : m = m'
  · subst hm
    have hevent := eventOf_code m m
    rw [if_pos rfl] at hevent
    rw [Moves, log, List.filterMap_cons_some hevent, Function.update_self, h]
    rfl
  · have hevent := eventOf_code m m'
    rw [if_neg hm] at hevent
    rw [Function.update_of_ne hm]
    exact moves_other hevent _

lemma moves_release (m m' : Modifier) {pressed : Modifier → Bool}
    (h : m' = .ctrlL → pressed m' = true) :
    m.Moves (pressed m) [m'.code ||| bxReleased] (Function.update pressed m' false m) := by
  by_cases hm : m = m'
  · subst hm
    have hevent := eventOf_release m m
    rw [if_pos rfl] at hevent
    have hnext : m.next (pressed m) .release = some false := by
      refine if_neg ?_
      rintro ⟨hctrl, hup⟩
      rw [h hctrl] at hup
      cases hup
    rw [Moves, log, List.filterMap_cons_some hevent, Function.update_self]
    show (m.next (pressed m) .release).bind _ = _
    rw [hnext]
    rfl
  · have hevent := eventOf_release m m'
    rw [if_neg hm] at hevent
    rw [Function.update_of_ne hm]
    exact moves_other hevent _

end Modifier

section Alternation

variable (m : Modifier) {pressed : Modifier → Bool} {key pressRelease : BitVec 32}

/-- What is neither a press nor a change of the focus, and does not have the code of a modifier key
unless it is a release. -/
lemma moves_enqReleased
    (hother : Modifier.ofKey key = none → m.eventOf (key ||| pressRelease) = none)
    (hmodifier : Modifier.ofKey key ≠ none → pressRelease = bxReleased) :
    m.Moves (pressed m) (enqReleased record key pressRelease ⟨[], pressed⟩).events
      ((enqReleased record key pressRelease ⟨[], pressed⟩).pressed m) := by
  unfold enqReleased
  split
  · rename_i hkey
    obtain rfl := Modifier.ofKey_eq_some hkey
    obtain rfl := hmodifier (by rw [hkey]; exact Option.some_ne_none _)
    split
    · rename_i hdown
      exact Modifier.moves_release m .ctrlL fun _ => hdown
    · exact Modifier.Moves.nil m _
  · rename_i m' hctrl hkey
    obtain rfl := Modifier.ofKey_eq_some hkey
    obtain rfl := hmodifier (by rw [hkey]; exact Option.some_ne_none _)
    exact Modifier.moves_release m m' fun h => absurd h hctrl
  · rename_i hkey
    exact Modifier.moves_other (hother hkey) _

lemma moves_enqPressed (hother : Modifier.ofKey key = none → m.eventOf (key ||| bxPressed) = none) :
    m.Moves (pressed m) (enqPressed record key ⟨[], pressed⟩).events
      ((enqPressed record key ⟨[], pressed⟩).pressed m) := by
  unfold enqPressed
  split
  · rename_i m' hkey
    obtain rfl := Modifier.ofKey_eq_some hkey
    split
    · exact Modifier.Moves.nil m _
    · rename_i hup
      have hup' : pressed m' = false := Bool.eq_false_iff.mpr hup
      split
      · rename_i haltGr
        -- the left control key is released, and then the right Alt key is pressed
        obtain ⟨rfl, hctrl⟩ := haltGr
        have hrelease := Modifier.moves_release m .ctrlL fun _ => hctrl
        have hpress := Modifier.moves_press m .altR
          (Function.update pressed .ctrlL false) hup'
        have hstate : enqReleased record Modifier.ctrlL.code bxReleased ⟨[], pressed⟩ =
            ⟨[Modifier.ctrlL.code ||| bxReleased], Function.update pressed .ctrlL false⟩ := by
          have hkey : Modifier.ofKey Modifier.ctrlL.code = some .ctrlL := rfl
          rw [enqReleased, hkey]
          exact if_pos hctrl
        rw [hstate]
        exact hrelease.append hpress
      · exact Modifier.moves_press m m' pressed hup'
  · rename_i hkey
    exact Modifier.moves_other (hother hkey) _

/-- An entry of the toolbar that has the scan code of no modifier key. -/
def WindowMessage.Plain : WindowMessage → Prop
  | toolbar entry => Modifier.ofKey (entry.setWidth 32) = none
  | _ => True

instance (msg : WindowMessage) : Decidable msg.Plain :=
  match msg with
  | .toolbar entry => inferInstanceAs (Decidable (Modifier.ofKey (entry.setWidth 32) = none))
  | .key .. | .mouse _ | .killFocus | .handleEvents => .isTrue trivial

/-- The events of one message. -/
lemma moves_admitted {msg : WindowMessage} (h : msg.Plain) :
    m.Moves (pressed m) (admitted pressed msg).events ((admitted pressed msg).pressed m) := by
  cases msg with
  | key code released =>
      have hother (hkey : Modifier.ofKey (code.setWidth 32) = none) := m.eventOf_other hkey released
      cases released with
      | false => exact moves_enqPressed m hother
      | true => exact moves_enqReleased m hother fun _ => rfl
  | mouse buttons =>
      have hnone : ∀ buttons : BitVec 3, Modifier.ofKey (buttons.setWidth 32) = none := by decide
      refine moves_enqReleased m (fun _ => m.eventOf_of_has (i := 29) (Or.inr rfl) ?_)
        fun hkey => absurd (hnone buttons) hkey
      rw [Word.has_or]
      exact Bool.or_true _
  | toolbar entry =>
      refine moves_enqReleased m (fun _ => m.eventOf_of_has (i := 27) (Or.inl rfl) ?_)
        fun hkey => absurd h hkey
      rw [Word.has_or]
      exact Bool.or_true _
  | killFocus =>
      show (m.log [0 ||| focusChanged]).foldlM m.next (pressed m) = some false
      rw [Modifier.log, List.filterMap_cons_some m.eventOf_focus]
      rfl
  | handleEvents => exact Modifier.Moves.nil m _

end Alternation

/-- Of what is put in, in whatever order the messages come, a press of a modifier key follows no
press of it without a release or a loss of the focus between, and a release of the left control key
follows a press; and the flag of the key says whether the last of these events was a press. -/
theorem modifiers_alternate (m : Modifier) (ms : List WindowMessage) (h : ∀ msg ∈ ms, msg.Plain) :
    (m.log (admittedAll (fun _ => false) ms).events).foldlM m.next false =
      some ((admittedAll (fun _ => false) ms).pressed m) := by
  show m.Moves false _ _
  induction ms using List.reverseRecOn with
  | nil => exact Modifier.Moves.nil m false
  | append_singleton ms msg ih =>
      have hbefore := ih fun msg' hmem => h msg' (List.mem_append_left _ hmem)
      have hplain : msg.Plain := h msg (List.mem_append_right _ (List.mem_singleton_self msg))
      rw [admittedAll_append]
      exact hbefore.append (moves_admitted m hplain)

/-- AltGr, with the left control key that Windows puts before it, repeated and released. -/
theorem modifiers_alternate_altGr :
    let ms : List WindowMessage :=
      [.key 0x1d false, .key 0x138 false, .key 0x1d false, .key 0x138 false, .key 0x1d true,
        .key 0x138 true]
    (Modifier.ctrlL.log (admittedAll (fun _ => false) ms).events =
        [.press, .release, .press, .release]) ∧
      (Modifier.ctrlL.log (admittedAll (fun _ => false) ms).events).foldlM
          Modifier.ctrlL.next false =
        some ((admittedAll (fun _ => false) ms).pressed .ctrlL) := by
  intro ms
  exact ⟨by decide, modifiers_alternate .ctrlL ms (by decide)⟩

/-! ## What a key sends -/

/-- The keyboard sends the codes of the first set: it is set to them, or to the second set with a
controller that translates. -/
def Ps2.SendsFirstSet (s : Ps2) : Prop :=
  s.keyboard.scanCodeSet = 0 ∧ Word.has s.dataRegister dataScanCode = false ∨
    s.keyboard.scanCodeSet = 1 ∧ Word.has s.dataRegister dataScanCode = true

instance (s : Ps2) : Decidable s.SendsFirstSet :=
  inferInstanceAs (Decidable (_ ∨ _))

/-- The scan code of Windows as bytes, but for Pause, Print and Num Lock, which Windows numbers
otherwise; what the table leaves out is sent as the left control key. -/
def pressSequence (code : BitVec 9) : List (BitVec 8) :=
  if win32ToBxKey (code.setWidth 32) = 0 then [0x1d]
  else if code = 0x045 then [0xe1, 0x1d, 0x45, 0xe1, 0x9d, 0xc5]
  else if code = 0x137 then [0xe0, 0x2a, 0xe0, 0x37]
  else if code = 0x145 then [0x45]
  else if Word.has code 8 then [0xe0, code.setWidth 8]
  else [code.setWidth 8]

/-- The two tables one after the other. -/
lemma tables_pressSequence : ∀ code : BitVec 9,
    (scancode (win32ToBxKey (code.setWidth 32)).toNat 0).makeCode = pressSequence code ∧
      translated 0 (scancode (win32ToBxKey (code.setWidth 32)).toNat 1).makeCode =
        pressSequence code := by
  decide +kernel

lemma win32ToBxKey_lt (key : BitVec 32) : win32ToBxKey key < bxKeyNbkeys := by
  have hentry {keys : List ℕ} (hkeys : ∀ k ∈ keys, k < 119) (i : ℕ) : keys.getD i 0 < 119 := by
    rcases Nat.lt_or_ge i keys.length with hi | hi
    · rw [List.getD_eq_getElem _ _ hi]
      exact hkeys _ (List.getElem_mem hi)
    · rw [List.getD_eq_default _ _ hi]
      exact Nat.zero_lt_succ 118
  have hkey : ∀ i, (if key &&& 0x100 ≠ 0 then win32ExtendedKeys else win32NormalKeys).getD i 0 <
      119 := by
    split
    · exact hentry (by decide)
    · exact hentry (by decide)
  have hlt := hkey (key &&& 0xff).toNat
  show (BitVec.ofNat 32 _).toNat < 119
  rw [BitVec.toNat_ofNat]
  exact Nat.lt_of_le_of_lt (Nat.mod_le _ _) hlt

/-- A code of nine bits, pressed or released, is none of the other events, and the table is read at
the code. -/
lemma key_event_plain : ∀ (code : BitVec 9) (released : Bool),
    let key := code.setWidth 32 ||| if released then bxReleased else bxPressed
    key ≠ mouseMotion ∧ key ≠ focusChanged ∧ key &&& mousePressed = 0 ∧
      key &&& toolbarClicked = 0 ∧ win32ToBxKey key = win32ToBxKey (code.setWidth 32) ∧
      (key &&& bxReleased ≠ 0 ↔ released = true) := by
  decide +kernel

/-- What the main loop makes of a key. -/
lemma handleKeyEvent_key (t : KeyTarget) (code : BitVec 9) (released : Bool) :
    handleKeyEvent t (code.setWidth 32 ||| if released then bxReleased else bxPressed) =
      { t with ps2 := t.ps2.generateScancode
                (keyEvent (win32ToBxKey (code.setWidth 32)) released) } := by
  obtain ⟨hmotion, hfocus, hmouse, htoolbar, htable, hreleased⟩ := key_event_plain code released
  rw [handleKeyEvent, if_neg hmotion, if_neg hfocus, if_neg (not_not.mpr hmouse),
    if_neg (not_not.mpr htoolbar), htable]
  simp only [hreleased]
  cases released <;> rfl

/-- A key that is pressed sends the code that Windows has for it, as far as the memory of the
keyboard has room, and a key that is released sends nothing. -/
theorem key_press_sends_code (t : KeyTarget) (code : BitVec 9) (h : t.ps2.SendsFirstSet) :
    (handleKeyEvent t (code.setWidth 32 ||| bxPressed)).ps2.keyboard.memory =
        t.ps2.keyboard.memory ++
          (pressSequence code).take (keyboardMemorySize - t.ps2.keyboard.memory.length) ∧
      handleKeyEvent t (code.setWidth 32 ||| bxReleased) = t := by
  obtain ⟨hfirst, hsecond⟩ := tables_pressSequence code
  have hsequence : t.ps2.keySequence (win32ToBxKey (code.setWidth 32)) false =
      pressSequence code := by
    unfold Ps2.keySequence
    rcases h with ⟨hset, htranslate⟩ | ⟨hset, htranslate⟩
    · rw [hset, htranslate]
      exact hfirst
    · rw [hset, htranslate]
      exact hsecond
  constructor
  · have hpress := handleKeyEvent_key t code false
    rw [if_neg Bool.false_ne_true] at hpress
    rw [hpress, Ps2.memory_generateScancode_press (win32ToBxKey_lt _), hsequence]
  · have hrelease := handleKeyEvent_key t code true
    rw [if_pos rfl] at hrelease
    rw [hrelease, Ps2.generateScancode_release]

/-- The right arrow, with room for its prefix alone. -/
theorem key_press_sends_code_arrow :
    let k : Ps2Keyboard := { Ps2.initialState.keyboard with memory := List.replicate 15 0x1e }
    let t : KeyTarget := { ps2 := { Ps2.initialState with keyboard := k }, clicks := [] }
    (handleKeyEvent t (BitVec.setWidth 32 (0x14d : BitVec 9) ||| bxPressed)).ps2.keyboard.memory =
      List.replicate 15 0x1e ++ [0xe0] := by
  intro k t
  have h := (key_press_sends_code t 0x14d (by decide)).1
  exact h.trans (by decide)

end Svmm
