import EmuHost.Proofs.TouchHistory
import Mathlib.Data.List.Nodup

/-!
# Handles of controller slots

Connecting a slot hands out a handle. This file shows that the handles count the slots in the order
in which they were connected first (`InputLog.order`), whatever else a host calls in between. The
order only grows, and never beyond the slots in use, so a handle stays with its slot and the next
one is bounded. Logs are lists with the latest call first.

## Key results

- `Router.connect_answers_iff`: when a connection is answered with a handle
- `Router.NumbersSlots.perform`: the invariant that ties slots and handles to the log
- `Router.handles_count_slots`: what follows for the slots, handles and snapshots of a router
-/

namespace EmuHost

/-! ## The order of connections -/

namespace InputLog

/-- The slots in the order in which they were connected first. -/
def order : InputLog → List Nat
  | [] => []
  | (.connect index, .number _) :: earlier =>
    if index ∈ order earlier then order earlier else order earlier ++ [index]
  | _ :: earlier => order earlier

/-- Whether the client area was told. -/
def IsOpened (log : InputLog) : Prop :=
  ∃ width height, (.openClient width height, .success) ∈ log

/-- What is no connection with a handle leaves the order. -/
theorem order_cons {call : InputCall} {answer : InputAnswer} (log : InputLog)
    (unanswered : (∀ index, call ≠ .connect index) ∨ ∀ handle, answer ≠ .number handle) :
    order ((call, answer) :: log) = log.order := by
  cases call with
  | connect index =>
    cases answer with
    | number handle =>
      rcases unanswered with plain | unanswered
      · exact absurd rfl (plain index)
      · exact absurd rfl (unanswered handle)
    | _ => rfl
  | _ => rfl

end InputLog

/-! ## Connections -/

namespace Router

variable (r : Router)

/-- A connection is answered with a handle if its slot may be used and the client area is told. -/
theorem connect_answers_iff (index : Nat) :
    (∃ handle, (r.perform (.connect index)).2.2 = .number handle) ↔
      index < r.maxControllers ∧ r.isInitialized = true := by
  simp only [perform, answering, connect]
  by_cases inUse : index < r.maxControllers
  · by_cases opened : r.isInitialized = true
    · have inside : index < slotCount := Nat.lt_of_lt_of_le inUse r.maxControllers_le
      -- a handle in any case, the slot's own or a new one
      simp only [inUse, opened, dite_true, Bool.not_true, Bool.false_eq_true, if_false]
      cases r.controllers[index] <;> simp [InputAnswer.ofHandle]
    · simp [inUse, opened, InputAnswer.ofHandle]
  · simp [inUse, InputAnswer.ofHandle]

/-- The number of controllers is settled once. -/
theorem perform_maxControllers (call : InputCall) :
    (r.perform call).1.maxControllers = r.maxControllers := by
  -- the frame of each call names what it may change, and the limit is not among it
  have event (named : call.slot?.isSome = true) :
      (r.perform call).1.maxControllers = r.maxControllers := by
    obtain ⟨_, frame⟩ := r.event_frame named
    rw [frame]
  cases call with
  | press | release | moveStick | accelerometer | gyro => exact event rfl
  | connect index =>
    obtain ⟨_, _, frame⟩ := r.connect_frame index
    rw [frame]
  | openClient width height =>
    obtain ⟨_, frame⟩ := r.openClient_frame width height
    simp only [perform, answering, frame]
  | resizeClient width height =>
    obtain ⟨_, frame⟩ := r.resizeClient_frame width height
    simp only [perform, answering, frame]
  | _ => rfl

/-- Once the client area is told, it stays told. -/
theorem perform_isInitialized (opened : r.isInitialized = true) (call : InputCall) :
    (r.perform call).1.isInitialized = true := by
  unfold isInitialized at opened ⊢
  rw [r.perform_clientSize]
  simp [opened]

/-- Only one call tells the client area first. -/
theorem isInitialized_of_perform {call : InputCall}
    (opened : (r.perform call).1.isInitialized = true) :
    r.isInitialized = true ∨
      ∃ width height, (call, (r.perform call).2.2) = (.openClient width height, .success) := by
  by_cases before : r.isInitialized = true
  · exact .inl before
  · right
    have size : r.clientSize = none := by simpa [isInitialized] using before
    unfold isInitialized at opened
    rw [r.perform_clientSize, size, Option.or_none] at opened
    -- some size was accepted, but not by a change of a size that was never told
    unfold InputLog.acceptedSize? at opened
    split at opened
    · rename_i width height same
      exact ⟨width, height, same⟩
    · rename_i width height same
      simp only [Prod.mk.injEq] at same
      obtain ⟨rfl, answer⟩ := same
      simp only [perform, answering, resizeClient, checkSize, before] at answer
      by_cases positive : 0 < width ∧ 0 < height <;> simp [positive, Reply.refused] at answer
    · simp at opened

/-! ## The invariant -/

/-- How the slots of a router are numbered, by the log of its calls. -/
structure NumbersSlots (log : InputLog) : Prop where
  nodup : log.order.Nodup
  next : r.nextHandle = log.order.length + 1
  handle : ∀ i, (r.slot? i).map Controller.handle =
    if i ∈ log.order then some (log.order.idxOf i + 1) else none
  answered : ∀ i handle, (.connect i, .number handle) ∈ log →
    i ∈ log.order ∧ handle = log.order.idxOf i + 1
  inUse : ∀ i ∈ log.order, i < r.maxControllers
  initialized : ∀ i ∈ log.order, r.isInitialized = true
  opened : r.isInitialized = true → log.IsOpened

namespace NumbersSlots

variable {r} {log : InputLog}

/-- A slot is connected if it has a place in the order. -/
theorem isSome_slot? (h : r.NumbersSlots log) (i : Nat) :
    (r.slot? i).isSome = true ↔ i ∈ log.order := by
  have handle := congrArg Option.isSome (h.handle i)
  rw [Option.isSome_map] at handle
  rw [handle]
  split <;> simp [*]

/-- The handle of a slot tells when it was connected. -/
theorem handle_of_slot? (h : r.NumbersSlots log) {i : Nat} {c : Controller}
    (held : r.slot? i = some c) : i ∈ log.order ∧ c.handle = log.order.idxOf i + 1 := by
  have mem : i ∈ log.order := (h.isSome_slot? i).mp (by simp [held])
  have handle := h.handle i
  rw [held, Option.map_some, if_pos mem, Option.some.injEq] at handle
  exact ⟨mem, handle⟩

/-- A client area that is known has been opened in the log. -/
theorem opened_cons (h : r.NumbersSlots log) (call : InputCall)
    (initialized : (r.perform call).1.isInitialized = true) :
    InputLog.IsOpened ((call, (r.perform call).2.2) :: log) := by
  rcases r.isInitialized_of_perform initialized with before | ⟨width, height, now⟩
  · obtain ⟨width, height, mem⟩ := h.opened before
    exact ⟨width, height, List.mem_cons_of_mem _ mem⟩
  · rw [now]
    exact ⟨width, height, List.mem_cons_self⟩

/-- A call that hands out no handle keeps the order and the slots. -/
theorem keep (h : r.NumbersSlots log) (call : InputCall)
    (unanswered : (∀ index, call ≠ .connect index) ∨
      ∀ handle, (r.perform call).2.2 ≠ .number handle)
    (next : (r.perform call).1.nextHandle = r.nextHandle)
    (handles : ∀ i, ((r.perform call).1.slot? i).map Controller.handle =
      (r.slot? i).map Controller.handle) :
    (r.perform call).1.NumbersSlots ((call, (r.perform call).2.2) :: log) := by
  have order : InputLog.order ((call, (r.perform call).2.2) :: log) = log.order :=
    InputLog.order_cons log unanswered
  constructor
  case nodup => rw [order]; exact h.nodup
  case next => rw [order, next]; exact h.next
  case handle => intro i; rw [order, handles]; exact h.handle i
  case answered =>
    intro i handle mem
    rw [order]
    rcases List.mem_cons.mp mem with now | before
    · -- the call itself is no connection with a handle
      rw [Prod.mk.injEq] at now
      rcases unanswered with plain | unanswered
      · exact absurd now.1.symm (plain i)
      · exact absurd now.2.symm (unanswered handle)
    · exact h.answered i handle before
  case inUse => rw [order, r.perform_maxControllers]; exact h.inUse
  case initialized =>
    intro i mem
    rw [order] at mem
    exact r.perform_isInitialized (h.initialized i mem) call
  case opened => exact h.opened_cons call

/-- A slot that is connected already answers with its own handle. -/
theorem again (h : r.NumbersSlots log) {index : Nat} {c : Controller}
    (held : r.slot? index = some c) :
    r.NumbersSlots ((.connect index, .number c.handle) :: log) := by
  obtain ⟨known, own⟩ := h.handle_of_slot? held
  have order : InputLog.order ((.connect index, .number c.handle) :: log) = log.order := by
    rw [InputLog.order, if_pos known]
  -- nothing of the log's order changes, so each fact is the one from before
  constructor
  case nodup => rw [order]; exact h.nodup
  case next => rw [order]; exact h.next
  case handle => rw [order]; exact h.handle
  case answered =>
    intro i handle mem
    rw [order]
    rcases List.mem_cons.mp mem with now | before
    · simp only [Prod.mk.injEq, InputCall.connect.injEq, InputAnswer.number.injEq] at now
      obtain ⟨rfl, rfl⟩ := now
      exact ⟨known, own⟩
    · exact h.answered i handle before
  case inUse => rw [order]; exact h.inUse
  case initialized => rw [order]; exact h.initialized
  case opened =>
    intro initialized
    obtain ⟨width, height, mem⟩ := h.opened initialized
    exact ⟨width, height, List.mem_cons_of_mem _ mem⟩

/-- An empty slot gets the next place in the order, and the next handle with it. -/
theorem extend (h : r.NumbersSlots log) {index : Nat} (inside : index < slotCount)
    (empty : r.slot? index = none) (inUse : index < r.maxControllers)
    (initialized : r.isInitialized = true) {r' : Router}
    (new : r' = { r with
      nextHandle := r.nextHandle + 1
      controllers := r.controllers.set index (some { handle := r.nextHandle }) }) :
    r'.NumbersSlots ((.connect index, .number r.nextHandle) :: log) := by
  have unknown : index ∉ log.order := by
    rw [← h.isSome_slot?, empty]
    simp
  have order : InputLog.order ((.connect index, .number r.nextHandle) :: log) =
      log.order ++ [index] := by
    rw [InputLog.order, if_neg unknown]
  have slots (i : Nat) : r'.slot? i =
      if index = i then some { handle := r.nextHandle } else r.slot? i := by
    rw [new]
    exact r.slot?_set i index _ inside
  -- the new slot comes last, the others keep their places
  have last : (log.order ++ [index]).idxOf index = log.order.length := by
    rw [List.idxOf_append_of_notMem unknown, List.idxOf_cons_self, Nat.add_zero]
  have place {i : Nat} (known : i ∈ log.order) :
      (log.order ++ [index]).idxOf i = log.order.idxOf i := List.idxOf_append_of_mem known
  -- one field at a time, with the new slot apart from the others
  constructor
  case nodup =>
    rw [order, ← List.concat_eq_append, List.nodup_concat]
    exact ⟨unknown, h.nodup⟩
  case next => rw [order, new, List.length_append, List.length_singleton, h.next]
  case handle =>
    intro i
    rw [order, slots]
    by_cases here : index = i
    · subst here
      simp [last, h.next]
    · rw [if_neg here, h.handle]
      by_cases known : i ∈ log.order
      · simp [known, place known]
      · simp [known, Ne.symm here]
  case answered =>
    intro i handle mem
    rw [order]
    rcases List.mem_cons.mp mem with now | before
    · simp only [Prod.mk.injEq, InputCall.connect.injEq, InputAnswer.number.injEq] at now
      obtain ⟨rfl, rfl⟩ := now
      exact ⟨by simp, by rw [last, h.next]⟩
    · obtain ⟨known, own⟩ := h.answered i handle before
      exact ⟨List.mem_append_left _ known, by rw [place known, own]⟩
  case inUse =>
    intro i mem
    rw [order, List.mem_append, List.mem_singleton] at mem
    rw [new]
    rcases mem with known | rfl
    · exact h.inUse i known
    · exact inUse
  case initialized =>
    intro _ _
    rw [new]
    exact initialized
  case opened =>
    intro _
    obtain ⟨width, height, mem⟩ := h.opened initialized
    exact ⟨width, height, List.mem_cons_of_mem _ mem⟩

/-- Every call keeps the slots numbered. -/
theorem perform (h : r.NumbersSlots log) (call : InputCall) :
    (r.perform call).1.NumbersSlots ((call, (r.perform call).2.2) :: log) := by
  by_cases connects : ∃ index, call = .connect index
  · obtain ⟨index, rfl⟩ := connects
    obtain ⟨same, answer⟩ | ⟨c, held, same, answer⟩ | ⟨inside, empty, new, answer⟩ :=
      r.perform_connect index
    · -- no handle
      apply h.keep
      · right
        simp [answer]
      · rw [same]
      · simp [same]
    -- the slot has its handle already
    · rw [same, answer]
      exact h.again held
    -- the slot gets its handle, so there is a client area and the slot is one to use
    · obtain ⟨inUse, initialized⟩ := (r.connect_answers_iff index).mp ⟨_, answer⟩
      rw [answer]
      exact h.extend inside empty inUse initialized new
  · rw [not_exists] at connects
    apply h.keep
    · exact .inl connects
    · exact r.perform_nextHandle connects
    -- other calls change controllers, but not their handles
    · intro i
      rw [r.slot?_perform connects, Option.map_map]
      congr 1
      funext c
      exact call.change_handle i c

end NumbersSlots

variable {r}

/-- A new router has numbered no slots. -/
theorem IsNew.numbersSlots (new : r.IsNew) : r.NumbersSlots [] := by
  constructor
  case nodup => exact List.nodup_nil
  case next => rw [new.eq_blank]; rfl
  case handle => simp [new.slot?, InputLog.order]
  case answered => simp
  case inUse => simp [InputLog.order]
  case initialized => simp [InputLog.order]
  case opened =>
    rw [new.eq_blank]
    simp [isInitialized]

/-- All that happens to it keeps the slots numbered. -/
theorem IsNew.after_numbersSlots (new : r.IsNew) (calls : List InputCall) :
    (r.after calls).NumbersSlots (r.log calls) := by
  -- on the calls, by what one of them keeps
  induction calls with
  | nil => exact new.numbersSlots
  | cons call earlier ih => exact ih.perform call

/-- The number of controllers stays. -/
theorem after_maxControllers (r : Router) (calls : List InputCall) :
    (r.after calls).maxControllers = r.maxControllers := by
  induction calls with
  | nil => rfl
  | cons call earlier ih => rw [after, perform_maxControllers, ih]

end Router

/-! ## Connected slots -/

namespace Snapshot

variable (s : Snapshot)

/-- The connected slots are the slots with a controller, each listed once. -/
theorem connected_slots : s.connected.map Prod.fst =
    (List.range slotCount).filter fun i => (s.controller? i).isSome := by
  unfold connected
  -- the slots may be any list, and each of them is listed if it has a controller
  generalize List.range slotCount = slots
  induction slots with
  | nil => rfl
  | cons i rest ih => cases held : s.controller? i <;> simp [held, ih]

/-- There are no more connected slots than slots. -/
theorem connected_length_le : s.connected.length ≤ slotCount := by
  unfold connected
  have := List.length_filterMap_le (fun i => (s.controller? i).map (i, ·)) (List.range slotCount)
  rwa [List.length_range] at this

/-- There are no controllers behind the last slot. -/
theorem controller?_of_le {i : Nat} (past : slotCount ≤ i) : s.controller? i = none := by
  simp [controller?, past]

/-- A list that names the slots with a controller, each once, is as long as the list of connected
slots. -/
theorem connected_length {slots : List Nat} (nodup : slots.Nodup)
    (mem : ∀ i, i ∈ slots ↔ (s.controller? i).isSome = true) :
    s.connected.length = slots.length := by
  rw [← s.connected.length_map Prod.fst, connected_slots]
  apply List.Perm.length_eq
  rw [List.perm_ext_iff_of_nodup (List.nodup_range.filter _) nodup]
  intro i
  rw [List.mem_filter, List.mem_range, mem]
  constructor
  · exact And.right
  · intro held
    refine ⟨?_, held⟩
    -- past the table there is no controller
    apply Nat.lt_of_not_le
    intro past
    rw [s.controller?_of_le past] at held
    simp at held

end Snapshot

/-! ## What handles tell -/

namespace Router

/-- How the handles of a router count its slots: by the log of its calls, and by the snapshot that
it publishes next. -/
structure CountsSlots (r : Router) (log : InputLog) (s : Snapshot) : Prop where
  /-- There are as many slots to use as the router was made for. -/
  limit : 1 ≤ r.maxControllers ∧ r.maxControllers ≤ 8
  /-- Only a slot in use is connected, and only after the client area was told. -/
  inUse : ∀ i c, s.controller? i = some c →
    i < r.maxControllers ∧ r.isInitialized = true ∧ log.IsOpened
  positive : ∀ i handle, (.connect i, .number handle) ∈ log → 0 < handle
  /-- A handle is answered for one slot only, and a slot with one handle only. -/
  same_iff : ∀ i j handle other, (.connect i, .number handle) ∈ log →
    (.connect j, .number other) ∈ log → (handle = other ↔ i = j)
  /-- Whatever was called since a slot was connected, it is still connected, with its handle. -/
  stays : ∀ i handle, (.connect i, .number handle) ∈ log →
    (s.controller? i).map Controller.handle = some handle
  /-- Handles are places in the order of first connections, from 1 on. -/
  place : ∀ i handle, (.connect i, .number handle) ∈ log →
    log.order[handle - 1]? = some i
  /-- The next slot to be connected gets the next handle. -/
  first : ∀ i, i < r.maxControllers → r.isInitialized = true → s.controller? i = none →
    (r.perform (.connect i)).2.2 = .number r.nextHandle
  next : r.nextHandle = s.connected.length + 1
  next_le : r.nextHandle ≤ 9
  /-- To connect a slot again changes nothing at all. -/
  again : ∀ i c, s.controller? i = some c →
    (r.perform (.connect i)).1 = r ∧ (r.perform (.connect i)).2.2 = .number c.handle
  /-- The table has every slot in use. -/
  inBounds : ∀ i, i < r.maxControllers → i < r.controllers.size

variable {r : Router} {log : InputLog}

/-- A slot in use that is empty gets the next handle. -/
theorem connect_empty {i : Nat} (inUse : i < r.maxControllers) (opened : r.isInitialized = true)
    (empty : r.slot? i = none) : (r.perform (.connect i)).2.2 = .number r.nextHandle := by
  obtain ⟨handle, answered⟩ := (r.connect_answers_iff i).mpr ⟨inUse, opened⟩
  obtain ⟨_, unanswered⟩ | ⟨c, held, _⟩ | ⟨_, _, _, answer⟩ := r.perform_connect i
  · rw [unanswered] at answered
    simp at answered
  · rw [empty] at held
    simp at held
  · exact answer

/-- Connecting a slot again changes nothing. -/
theorem NumbersSlots.connect_held (h : r.NumbersSlots log) {i : Nat} {c : Controller}
    (held : r.slot? i = some c) :
    (r.perform (.connect i)).1 = r ∧ (r.perform (.connect i)).2.2 = .number c.handle := by
  have known := (h.handle_of_slot? held).1
  obtain ⟨handle, answered⟩ :=
    (r.connect_answers_iff i).mpr ⟨h.inUse i known, h.initialized i known⟩
  obtain ⟨_, unanswered⟩ | ⟨own, held', same, answer⟩ | ⟨_, empty, _, _⟩ := r.perform_connect i
  · rw [unanswered] at answered
    simp at answered
  · rw [held, Option.some.injEq] at held'
    rw [held']
    exact ⟨same, answer⟩
  · rw [held] at empty
    simp at empty

/-- The numbering says all that handles tell of the slots, as they are published. -/
theorem NumbersSlots.countsSlots (h : r.NumbersSlots log) {s : Snapshot}
    (shown : ∀ i, s.controller? i = r.slot? i) : r.CountsSlots log s := by
  have length : s.connected.length = log.order.length := by
    apply s.connected_length h.nodup
    intro i
    rw [shown, h.isSome_slot?]
  constructor
  case limit => exact ⟨r.maxControllers_pos, r.maxControllers_le⟩
  case inUse =>
    intro i c held
    rw [shown] at held
    have known := (h.handle_of_slot? held).1
    have initialized := h.initialized i known
    exact ⟨h.inUse i known, initialized, h.opened initialized⟩
  case positive =>
    intro i handle mem
    have := (h.answered i handle mem).2
    omega
  case same_iff =>
    intro i j handle other mem mem'
    obtain ⟨known, rfl⟩ := h.answered i handle mem
    obtain ⟨_, rfl⟩ := h.answered j other mem'
    rw [Nat.add_right_cancel_iff, List.idxOf_inj known]
  case stays =>
    intro i handle mem
    obtain ⟨known, rfl⟩ := h.answered i handle mem
    rw [shown, h.handle, if_pos known]
  case place =>
    intro i handle mem
    obtain ⟨known, rfl⟩ := h.answered i handle mem
    rw [Nat.add_sub_cancel, List.getElem?_idxOf known]
  case first =>
    intro i inUse opened empty
    rw [shown] at empty
    exact connect_empty inUse opened empty
  case next => rw [length, h.next]
  case next_le =>
    have le : log.order.length ≤ 8 := length ▸ s.connected_length_le
    rw [h.next]
    omega
  case again =>
    intro i c held
    rw [shown] at held
    exact h.connect_held held
  case inBounds =>
    intro i inUse
    exact Nat.lt_of_lt_of_le inUse r.maxControllers_le

/-- Whatever a host calls, handles count the slots in the order of their first connections. -/
theorem handles_count_slots (new : r.IsNew) (calls : List InputCall) :
    (r.after calls).maxControllers = r.maxControllers ∧
      ∃ s, r.log (.update :: calls) = (.update, .snapshot s) :: r.log calls ∧
        (r.after calls).CountsSlots (r.log calls) s := by
  refine ⟨r.after_maxControllers calls, (r.after calls).update.published, rfl, ?_⟩
  apply (new.after_numbersSlots calls).countsSlots
  intro i
  rfl

/-- Slot 2 is connected first, and once more after slot 0, which has the second handle. -/
theorem handles_count_slots_two :
    IsNew {} ∧
      ∃ s,
        Router.log {} [.update, .connect 2, .connect 0, .connect 2, .connect 9, .openClient 4 3] =
          (.update, .snapshot s) ::
            Router.log {} [.connect 2, .connect 0, .connect 2, .connect 9, .openClient 4 3] ∧
        (s.controller? 2).map Controller.handle = some 1 ∧
        (s.controller? 0).map Controller.handle = some 2 := by
  have new : IsNew {} := .default
  refine ⟨new, ?_⟩
  obtain ⟨_, s, answered, counts⟩ := handles_count_slots new
    [.connect 2, .connect 0, .connect 2, .connect 9, .openClient 4 3]
  exact ⟨s, answered, counts.stays 2 1 (by decide), counts.stays 0 2 (by decide)⟩

end Router

end EmuHost
