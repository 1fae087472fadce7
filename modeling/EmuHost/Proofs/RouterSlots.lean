import EmuHost.Input.Call

/-!
# What a call does to a controller slot

A router keeps one controller in each of its slots, and most calls concern one slot or none. This
file states once what each call does to each slot, so that no later proof has to look into the
router: an event changes the controller of its own slot (`InputCall.change`), a connection fills an
empty slot, and everything else leaves the slots alone.

## Key results

- `ButtonSet.getLsbD_insert`, `ButtonSet.getLsbD_erase`: sets of buttons, bit by bit
- `Router.perform_connect`: the three ways in which a connection can go
- `Router.slot?_perform`: every other call, slot by slot
- `Router.perform_of_dropped`: an event that is dropped leaves the whole router as it is
-/

namespace EmuHost

/-! ## Bits of a button set -/

/-- The bits of buttons fit into a set. -/
theorem Button.code_lt (button : Button) : button.code < 28 := by
  cases button <;> decide

/-- No two buttons share a bit. -/
theorem Button.code_injective {one other : Button} (same : one.code = other.code) :
    one = other := by
  have found (button : Button) : Button.all[button.code]? = some button := by
    cases button <;> rfl
  have := found one
  rw [same, found other] at this
  exact (Option.some.inj this).symm

namespace ButtonSet

/-- The set of one button has its bit, and none for a button without a binding. -/
theorem getLsbD_bit (button : Button) (k : Nat) :
    (bit button).getLsbD k = decide (button ≠ .unbound ∧ k = button.code) := by
  have := button.code_lt
  simp only [bit]
  split
  · simp [*]
  · rename_i bound
    rw [BitVec.getLsbD_twoPow, Bool.eq_iff_iff]
    simp only [Bool.and_eq_true, decide_eq_true_eq, ne_eq, bound, not_false_eq_true, true_and]
    omega

/-- Holding a button sets its bit and no other. -/
theorem getLsbD_insert (s : ButtonSet) (button : Button) (k : Nat) :
    (s.insert button).bits.getLsbD k =
      (decide (button ≠ .unbound ∧ k = button.code) || s.bits.getLsbD k) := by
  simp only [insert, BitVec.getLsbD_or, getLsbD_bit, Bool.or_comm]

/-- Letting a button go clears its bit and no other. -/
theorem getLsbD_erase (s : ButtonSet) (button : Button) (k : Nat) :
    (s.erase button).bits.getLsbD k =
      (!decide (button ≠ .unbound ∧ k = button.code) && s.bits.getLsbD k) := by
  simp only [erase, BitVec.getLsbD_and, BitVec.getLsbD_not, getLsbD_bit]
  by_cases inside : k < 32
  · simp [inside, Bool.and_comm]
  · simp [BitVec.getLsbD_of_ge s.bits k (by omega)]

/-- Inserting what is unbound inserts nothing. -/
theorem insert_unbound (s : ButtonSet) : s.insert .unbound = s := by
  simp [insert, bit]

/-- Erasing it erases nothing. -/
theorem erase_unbound (s : ButtonSet) : s.erase .unbound = s := by
  have all : ~~~bit .unbound = BitVec.allOnes 32 := rfl
  rw [erase, all, BitVec.and_allOnes]

end ButtonSet

/-! ## Calls and slots -/

namespace InputCall

/-- The slot that an event names. The other calls are no events. -/
def slot? : InputCall → Option Nat
  | .press _ index | .release _ index | .moveStick _ _ index => some index
  | .accelerometer _ index | .gyro _ index => some index
  | _ => none

/-- Whether an event is for the unbound button or the unbound stick. -/
def isUnbound : InputCall → Bool
  | .press button _ | .release button _ => button = .unbound
  | .moveStick which _ _ => which = .unbound
  | _ => false

/-- What an event does to the controller in its slot. -/
def edit : InputCall → Controller → Controller
  | .press button _, c => { c with buttons := c.buttons.insert button }
  | .release button _, c => { c with buttons := c.buttons.erase button }
  | .moveStick .left value _, c => { c with leftStick := value }
  | .moveStick .right value _, c => { c with rightStick := value }
  | .accelerometer value _, c => { c with accelerometer := value }
  | .gyro value _, c => { c with gyro := value }
  | _, c => c

/-- What a call does to the controller in slot `i`. -/
def change (i : Nat) (call : InputCall) (c : Controller) : Controller :=
  if call.slot? = some i then call.edit c else c

/-- An event that is unbound edits nothing. -/
theorem edit_of_unbound {call : InputCall} (unbound : call.isUnbound = true) (c : Controller) :
    call.edit c = c := by
  cases call with
  | press button index =>
    obtain rfl := of_decide_eq_true unbound
    simp only [edit, ButtonSet.insert_unbound]
  | release button index =>
    obtain rfl := of_decide_eq_true unbound
    simp only [edit, ButtonSet.erase_unbound]
  | moveStick which value index =>
    obtain rfl := of_decide_eq_true unbound
    rfl
  | _ => exact nomatch unbound

/-- A controller keeps its handle. -/
theorem change_handle (call : InputCall) (i : Nat) (c : Controller) :
    (call.change i c).handle = c.handle := by
  rw [change]
  split
  · cases call with
    | moveStick which => cases which <;> rfl
    | _ => rfl
  · rfl

end InputCall

namespace Router

/-- The controller in a slot; there is none past the last slot. -/
def slot? (r : Router) (i : Nat) : Option Controller := (r.controllers[i]?).join

variable (r : Router)

/-- There are no slots behind the last one. -/
theorem slot?_of_le {i : Nat} (past : slotCount ≤ i) : r.slot? i = none := by
  simp [slot?, past]

/-- The slots in front of it are those of the table. -/
theorem slot?_of_lt {i : Nat} (inside : i < slotCount) : r.slot? i = r.controllers[i] := by
  simp [slot?, inside]

/-- A slot that is set is the only one that changes. -/
theorem slot?_set (i j : Nat) (c : Controller) (inside : j < slotCount) :
    { r with controllers := r.controllers.set j (some c) }.slot? i =
      if j = i then some c else r.slot? i := by
  by_cases within : i < slotCount
  · simp only [slot?_of_lt _ within, Vector.getElem_set]
  · rw [slot?_of_le _ (by omega), slot?_of_le _ (by omega), if_neg (by omega)]

/-! ### Events -/

/-- A change for an empty slot changes nothing. -/
theorem modify_of_empty {index : Nat} (empty : r.slot? index = none) (event : String)
    (change : Controller → Controller) : (r.modify event index change).state = r := by
  simp only [modify]
  split
  · rename_i inside
    rw [slot?_of_lt r inside] at empty
    simp [empty, Reply.done]
  · rfl

/-- A change for a slot changes its controller only. -/
theorem slot?_modify (event : String) (index : Nat) (change : Controller → Controller) (i : Nat) :
    (r.modify event index change).state.slot? i =
      (r.slot? i).map fun c => if index = i then change c else c := by
  cases held : r.slot? index with
  | none =>
    rw [r.modify_of_empty held]
    by_cases same : index = i
    · simp [← same, held]
    · simp [same]
  | some c =>
    -- a slot that holds something is in the table
    have inside : index < slotCount := by
      by_cases inside : index < slotCount
      · exact inside
      · rw [r.slot?_of_le (by omega)] at held
        exact nomatch held
    have slot := held
    rw [slot?_of_lt r inside] at slot
    simp only [modify, dif_pos inside, slot, Reply.done, slot?_set]
    by_cases same : index = i
    · simp [← same, held]
    · simp [same]

/-- A change for a slot leaves everything but the slots alone. -/
theorem modify_frame (event : String) (index : Nat) (change : Controller → Controller) :
    ∃ controllers, (r.modify event index change).state = { r with controllers } := by
  simp only [modify]
  split
  · split
    · exact ⟨_, rfl⟩
    · exact ⟨r.controllers, rfl⟩
  · exact ⟨r.controllers, rfl⟩

/-- Changing a controller never fails. -/
theorem modify_result (event : String) (index : Nat) (change : Controller → Controller) :
    (r.modify event index change).result = .ok () := by
  simp only [modify]
  split
  · split <;> rfl
  · rfl

/-- A button without a binding is dropped. -/
theorem setButton_unbound (index : Nat) (pressed : Bool) :
    ∃ lines, r.setButton .unbound index pressed = .done r lines := ⟨_, rfl⟩

/-- So is a stick without one. -/
theorem setStick_unbound (value : Vec2 Binary32) (index : Nat) :
    ∃ lines, r.setStick .unbound value index = .done r lines := by
  simp only [setStick]
  split
  · exact ⟨_, rfl⟩
  · exact ⟨_, rfl⟩

/-- An event answers nothing. It changes the controller of its slot, unless it is unbound: then it
does not reach the slot at all. -/
theorem perform_event {call : InputCall} {index : Nat} (named : call.slot? = some index) :
    (r.perform call).2.2 = .nothing ∧
      ((call.isUnbound = true ∧ (r.perform call).1 = r) ∨
        (call.isUnbound = false ∧
          ∃ event, (r.perform call).1 = (r.modify event index call.edit).state)) := by
  cases call with
  | press button index =>
    -- each event is dropped as unbound or is a change of one controller
    obtain rfl := Option.some.inj named
    by_cases unbound : button = .unbound
    · obtain ⟨lines, dropped⟩ := r.setButton_unbound index true
      simp only [perform, unbound, dropped]
      exact ⟨rfl, .inl ⟨rfl, rfl⟩⟩
    · simp only [perform, answering, setButton, if_neg unbound, modify_result]
      exact ⟨rfl, .inr ⟨decide_eq_false unbound, _, rfl⟩⟩
  | release button index =>
    obtain rfl := Option.some.inj named
    by_cases unbound : button = .unbound
    · obtain ⟨lines, dropped⟩ := r.setButton_unbound index false
      simp only [perform, unbound, dropped]
      exact ⟨rfl, .inl ⟨rfl, rfl⟩⟩
    · simp only [perform, answering, setButton, if_neg unbound, modify_result]
      exact ⟨rfl, .inr ⟨decide_eq_false unbound, _, rfl⟩⟩
  | moveStick which value index =>
    obtain rfl := Option.some.inj named
    cases which with
    | unbound =>
      obtain ⟨lines, dropped⟩ := r.setStick_unbound value index
      simp only [perform, dropped]
      exact ⟨rfl, .inl ⟨rfl, rfl⟩⟩
    | left =>
      simp only [perform, answering, setStick, modify_result]
      exact ⟨rfl, .inr ⟨rfl, _, rfl⟩⟩
    | right =>
      simp only [perform, answering, setStick, modify_result]
      exact ⟨rfl, .inr ⟨rfl, _, rfl⟩⟩
  | accelerometer value index =>
    obtain rfl := Option.some.inj named
    simp only [perform, answering, setAccelerometer, modify_result]
    exact ⟨rfl, .inr ⟨rfl, _, rfl⟩⟩
  | gyro value index =>
    obtain rfl := Option.some.inj named
    simp only [perform, answering, setGyro, modify_result]
    exact ⟨rfl, .inr ⟨rfl, _, rfl⟩⟩
  | _ => exact nomatch named

/-- An unbound event, and one for an empty slot, leave the whole router as it is. -/
theorem perform_of_dropped {call : InputCall} {index : Nat} (named : call.slot? = some index)
    (dropped : call.isUnbound = true ∨ r.slot? index = none) : (r.perform call).1 = r := by
  obtain ⟨_, ⟨_, same⟩ | ⟨bound, event, same⟩⟩ := r.perform_event named
  · exact same
  · -- the event is bound, so its slot is empty
    have empty := dropped.resolve_left (by simp [bound])
    rw [same, r.modify_of_empty empty]

/-! ### Connections -/

/-- The three ways in which a connection can go: there is no handle, the slot is connected already
and its handle is answered again, or an empty slot gets the next handle. -/
theorem perform_connect (index : Nat) :
    ((r.perform (.connect index)).1 = r ∧ (r.perform (.connect index)).2.2 = .nothing) ∨
    (∃ c, r.slot? index = some c ∧ (r.perform (.connect index)).1 = r ∧
      (r.perform (.connect index)).2.2 = .number c.handle) ∨
    (∃ inside : index < slotCount, r.slot? index = none ∧
      (r.perform (.connect index)).1 = { r with
        nextHandle := r.nextHandle + 1
        controllers := r.controllers.set index (some { handle := r.nextHandle }) } ∧
      (r.perform (.connect index)).2.2 = .number r.nextHandle) := by
  simp only [perform, connect, answering]
  split
  -- the router asks for the limit before it looks into the slot
  · rename_i inUse
    have inside : index < slotCount := Nat.lt_of_lt_of_le inUse r.maxControllers_le
    split
    · exact .inl ⟨rfl, rfl⟩
    · split
      · rename_i c held
        exact .inr (.inl ⟨c, by rw [slot?_of_lt r inside, held], rfl, rfl⟩)
      · rename_i empty
        exact .inr (.inr ⟨inside, by rw [slot?_of_lt r inside, empty], rfl, rfl⟩)
  · exact .inl ⟨rfl, rfl⟩

/-- A call for a slot that there is not reaches nothing. -/
theorem perform_out_of_reach {call : InputCall} {slot : Nat} (past : slotCount ≤ slot)
    (reaches : call.slot? = some slot ∨ call = .connect slot) :
    (r.perform call).1 = r ∧ (r.perform call).2.2 = .nothing := by
  -- an event is dropped, a connection is refused
  obtain named | rfl := reaches
  · exact ⟨r.perform_of_dropped named (.inr (r.slot?_of_le past)), (r.perform_event named).1⟩
  · obtain out | ⟨_, held, _⟩ | ⟨inside, _⟩ := r.perform_connect slot
    · exact out
    · rw [r.slot?_of_le past] at held
      cases held
    · omega

/-! ### The client area -/

/-- Opening the client area sets its size, or nothing. -/
theorem openClient_frame (width height : Int) :
    ∃ clientSize, (r.openClient width height).state = { r with clientSize } := by
  simp only [openClient]
  split
  · exact ⟨r.clientSize, rfl⟩
  · split
    · exact ⟨r.clientSize, rfl⟩
    · exact ⟨_, rfl⟩

/-- So does resizing it. -/
theorem resizeClient_frame (width height : Int) :
    ∃ clientSize, (r.resizeClient width height).state = { r with clientSize } := by
  simp only [resizeClient]
  split
  · exact ⟨r.clientSize, rfl⟩
  · split
    · exact ⟨_, rfl⟩
    · exact ⟨r.clientSize, rfl⟩

/-! ### All calls -/

/-- A call that is neither an event nor a connection leaves the slots alone. -/
theorem perform_controllers {call : InputCall} (noEvent : call.slot? = none)
    (noConnect : ∀ index, call ≠ .connect index) :
    (r.perform call).1.controllers = r.controllers := by
  -- events and connections are ruled out, and the rest does not know of controllers
  cases call with
  | connect index => exact absurd rfl (noConnect index)
  | openClient width height =>
    obtain ⟨clientSize, frame⟩ := r.openClient_frame width height
    simp only [perform, answering, frame]
  | resizeClient width height =>
    obtain ⟨clientSize, frame⟩ := r.resizeClient_frame width height
    simp only [perform, answering, frame]
  | press => exact nomatch noEvent
  | release => exact nomatch noEvent
  | moveStick => exact nomatch noEvent
  | accelerometer => exact nomatch noEvent
  | gyro => exact nomatch noEvent
  | _ => rfl

/-- Apart from connections, a call does to each slot what `InputCall.change` says. -/
theorem slot?_perform {call : InputCall} (noConnect : ∀ index, call ≠ .connect index) (i : Nat) :
    (r.perform call).1.slot? i = (r.slot? i).map (call.change i) := by
  -- what is named here is the slot of an event
  cases named : call.slot? with
  | none =>
    -- no event at all: both sides leave the slot as it is
    have change : call.change i = id := by funext c; simp [InputCall.change, named]
    rw [change, Option.map_id_fun, id, slot?, r.perform_controllers named noConnect, slot?]
  | some index =>
    have change (c : Controller) : call.change i c = if index = i then call.edit c else c := by
      simp [InputCall.change, named]
    obtain ⟨_, ⟨unbound, same⟩ | ⟨_, event, same⟩⟩ := r.perform_event named
    · -- an unbound event does not reach the slot, and would not change it either
      have change : call.change i = id := by
        funext c
        rw [change, InputCall.edit_of_unbound unbound, ite_self, id]
      rw [same, change, Option.map_id_fun, id]
    · rw [same, slot?_modify]
      exact congrArg (Option.map · (r.slot? i)) (funext fun c => (change c).symm)

/-- Four things belong to one call each: the published input, the count of updates, the shape of
the screen and the next handle. All other calls leave them alone. -/
theorem perform_frame {call : InputCall} (noConnect : ∀ index, call ≠ .connect index)
    (noUpdate : call ≠ .update) (noShape : ∀ aspect, call ≠ .setAspectRatio aspect) :
    ∃ clientSize controllers touch,
      (r.perform call).1 = { r with clientSize, controllers, touch } := by
  -- an event changes controllers only, what is left is gone through call by call
  cases named : call.slot? with
  | some index =>
    obtain ⟨_, ⟨_, same⟩ | ⟨_, event, same⟩⟩ := r.perform_event named
    · exact ⟨r.clientSize, r.controllers, r.touch, same⟩
    · obtain ⟨controllers, frame⟩ := r.modify_frame event index call.edit
      exact ⟨r.clientSize, controllers, r.touch, same.trans frame⟩
  | none =>
    cases call with
    | connect index => exact absurd rfl (noConnect index)
    | update => exact absurd rfl noUpdate
    | setAspectRatio aspect => exact absurd rfl (noShape aspect)
    | openClient width height =>
      obtain ⟨clientSize, frame⟩ := r.openClient_frame width height
      exact ⟨clientSize, r.controllers, r.touch, frame⟩
    | resizeClient width height =>
      obtain ⟨clientSize, frame⟩ := r.resizeClient_frame width height
      exact ⟨clientSize, r.controllers, r.touch, frame⟩
    | press | release | moveStick | accelerometer | gyro => exact nomatch named
    | _ => exact ⟨r.clientSize, r.controllers, _, rfl⟩

/-- A connection changes the slots and the next handle only. -/
theorem connect_frame (index : Nat) :
    ∃ nextHandle controllers,
      (r.perform (.connect index)).1 = { r with nextHandle, controllers } := by
  obtain ⟨same, _⟩ | ⟨_, _, same, _⟩ | ⟨_, _, new, _⟩ := r.perform_connect index
  · exact ⟨r.nextHandle, r.controllers, same⟩
  · exact ⟨r.nextHandle, r.controllers, same⟩
  · exact ⟨_, _, new⟩

/-- An event reaches the slots only. -/
theorem event_frame {call : InputCall} (named : call.slot?.isSome = true) :
    ∃ controllers, (r.perform call).1 = { r with controllers } := by
  obtain ⟨index, named⟩ := Option.isSome_iff_exists.mp named
  obtain ⟨_, ⟨_, same⟩ | ⟨_, event, same⟩⟩ := r.perform_event named
  · exact ⟨r.controllers, same⟩
  · obtain ⟨controllers, frame⟩ := r.modify_frame event index call.edit
    exact ⟨controllers, same.trans frame⟩

/-- Only an update counts or publishes. -/
theorem perform_published {call : InputCall} (other : call ≠ .update) :
    (r.perform call).1.tick = r.tick ∧ (r.perform call).1.published = r.published := by
  by_cases connects : ∃ index, call = .connect index
  · obtain ⟨index, rfl⟩ := connects
    obtain ⟨_, _, frame⟩ := r.connect_frame index
    rw [frame]
    exact ⟨rfl, rfl⟩
  · by_cases shapes : ∃ aspect, call = .setAspectRatio aspect
    · obtain ⟨aspect, rfl⟩ := shapes
      exact ⟨rfl, rfl⟩
    · rw [not_exists] at connects shapes
      obtain ⟨_, _, _, frame⟩ := r.perform_frame connects other shapes
      rw [frame]
      exact ⟨rfl, rfl⟩

/-- Only one call shapes the screen that touches are mapped to. -/
theorem perform_aspectRatio {call : InputCall} (other : ∀ aspect, call ≠ .setAspectRatio aspect) :
    (r.perform call).1.aspectRatio = r.aspectRatio := by
  by_cases connects : ∃ index, call = .connect index
  · obtain ⟨index, rfl⟩ := connects
    obtain ⟨_, _, frame⟩ := r.connect_frame index
    rw [frame]
  · by_cases updates : call = .update
    · rw [updates]
      rfl
    · rw [not_exists] at connects
      obtain ⟨_, _, _, frame⟩ := r.perform_frame connects updates other
      rw [frame]

/-- Only a connection takes a handle. -/
theorem perform_nextHandle {call : InputCall} (noConnect : ∀ index, call ≠ .connect index) :
    (r.perform call).1.nextHandle = r.nextHandle := by
  by_cases updates : call = .update
  · rw [updates]
    rfl
  · by_cases shapes : ∃ aspect, call = .setAspectRatio aspect
    · obtain ⟨aspect, rfl⟩ := shapes
      rfl
    · rw [not_exists] at shapes
      obtain ⟨_, _, _, frame⟩ := r.perform_frame noConnect updates shapes
      rw [frame]

/-! ### New routers -/

/-- A router as it is made: for the default number of slots, or for one that was accepted. -/
inductive IsNew : Router → Prop where
  | default : IsNew {}
  | made {n : Nat} {r : Router} (accepted : ofMaxControllers n = .ok r) : IsNew r

variable {r} in
/-- A new router knows how many slots it may use, and nothing else. -/
theorem IsNew.eq_blank (new : r.IsNew) :
    r = {
      maxControllers := r.maxControllers
      maxControllers_pos := r.maxControllers_pos
      maxControllers_le := r.maxControllers_le } := by
  cases new with
  | default => rfl
  | made accepted =>
    unfold ofMaxControllers at accepted
    split at accepted
    · cases accepted
      rfl
    · cases accepted

variable {r} in
/-- No slot of a new router is connected. -/
theorem IsNew.slot? (new : r.IsNew) (i : Nat) : r.slot? i = none := by
  rw [new.eq_blank]
  by_cases inside : i < slotCount
  · rw [slot?_of_lt _ inside, Vector.getElem_replicate]
  · rw [slot?_of_le _ (by omega)]

/-! ### Handles -/

/-- Whether no handle is 0, neither those that were handed out nor the next one. -/
structure HandlesPositive (r : Router) : Prop where
  held : ∀ i c, r.slot? i = some c → 0 < c.handle
  next : 0 < r.nextHandle

/-- New routers hand out positive handles. -/
theorem handlesPositive_fresh {n : Nat} (valid : ofMaxControllers n = .ok r) :
    r.HandlesPositive := by
  have new : r.IsNew := .made valid
  constructor
  · intro i c held
    rw [new.slot?] at held
    cases held
  · rw [new.eq_blank]
    exact Nat.one_pos

variable {r} in
/-- And so do all that they become. -/
theorem HandlesPositive.perform (positive : r.HandlesPositive) (call : InputCall) :
    (r.perform call).1.HandlesPositive := by
  by_cases connects : ∃ index, call = .connect index
  · obtain ⟨index, rfl⟩ := connects
    -- a connection hands out the next handle at most, and nothing else hands out any
    obtain ⟨same, _⟩ | ⟨_, _, same, _⟩ | ⟨inside, _, new, _⟩ := r.perform_connect index
    · rw [same]
      exact positive
    · rw [same]
      exact positive
    · rw [new]
      refine ⟨fun i c held => ?_, Nat.succ_pos _⟩
      rw [slot?_set { r with nextHandle := r.nextHandle + 1 } i index _ inside] at held
      split at held
      · cases held
        exact positive.next
      · exact positive.held i c held
  · rw [not_exists] at connects
    refine ⟨fun i c held => ?_, ?_⟩
    · rw [r.slot?_perform connects i] at held
      obtain ⟨before, was, rfl⟩ := Option.map_eq_some_iff.mp held
      rw [call.change_handle]
      exact positive.held i before was
    · rw [r.perform_nextHandle connects]
      exact positive.next

end Router

end EmuHost
