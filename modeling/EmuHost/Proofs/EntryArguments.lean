import EmuHost.Entry.Function
import EmuHost.Proofs.DeviceCalls
import EmuHost.Proofs.RouterSlots

/-!
# Arguments and answers of entry functions

The host passes plain numbers and strings, and gets plain values back. This file says which call to
the session an entry function stands for (`EntryFunction.Asks`), if it stands for one, and what the
host is shown of the answer (`EntryResult.Shows`). Numbers are places in the tables of named values;
a string is what it says if it is text.

## Key results

- `EntryFunction.convert_iff`: arguments are converted to the call that they ask for, or to none
- `EntryFunction.shows`: what the host is shown of the answer to that call
- `EntryFunction.perform_of_negative`: with a negative index nothing is reached
-/

namespace EmuHost

/-! ## Numbers and strings -/

/-- Whether a number is the place of a value in a table. -/
def Names {α : Type} (values : List α) (code : Int) (value : α) : Prop :=
  0 ≤ code ∧ values[code.toNat]? = some value

/-- A code is looked up by its position, which must not be negative. -/
theorem lookUpCode_iff {α : Type} {table : String} {values : List α} {code : Int} {value : α} :
    lookUpCode table values code = .ok value ↔ Names values code value := by
  rw [lookUpCode, Names]
  by_cases negative : code < 0
  · rw [if_pos negative]
    constructor
    · exact nofun
    · omega
  · rw [if_neg negative]
    cases found : values[code.toNat]? with
    | none => exact ⟨nofun, nofun⟩
    | some v =>
      constructor
      · rintro ⟨⟩
        exact ⟨by omega, rfl⟩
      · rintro ⟨-, ⟨⟩⟩
        rfl

/-- Whether the fields that the host sends are those of a configuration. -/
structure RawGraphicsConfig.Reads (raw : RawGraphicsConfig) (c : GraphicsConfig) : Prop where
  tuning : c.toGraphicsTuning = raw.toGraphicsTuning
  backendThreading : Names BackendThreading.all raw.backendThreading c.backendThreading
  aspectRatio : Names AspectRatio.all raw.aspectRatio c.aspectRatio

/-- A configuration is decoded field by field, with a code for each enumeration. -/
theorem RawGraphicsConfig.decode_iff {raw : RawGraphicsConfig} {c : GraphicsConfig} :
    raw.decode = .ok c ↔ raw.Reads c := by
  simp only [decode, BackendThreading.ofCode, AspectRatio.ofCode]
  -- the first code that is unknown refuses the configuration
  cases threading : lookUpCode "BackendThreading" BackendThreading.all raw.backendThreading with
  | error e =>
    refine ⟨nofun, fun reads => ?_⟩
    cases threading.symm.trans (lookUpCode_iff.mpr reads.backendThreading)
  | ok t =>
    cases aspect : lookUpCode "AspectRatio" AspectRatio.all raw.aspectRatio with
    | error e =>
      refine ⟨nofun, fun reads => ?_⟩
      cases aspect.symm.trans (lookUpCode_iff.mpr reads.aspectRatio)
    | ok s =>
      constructor
      · rintro ⟨⟩
        exact ⟨rfl, lookUpCode_iff.mp threading, lookUpCode_iff.mp aspect⟩
      · rintro ⟨tuning, threads, shapes⟩
        cases threading.symm.trans (lookUpCode_iff.mpr threads)
        cases aspect.symm.trans (lookUpCode_iff.mpr shapes)
        rw [← tuning]
        rfl

/-- Whether the fields that the host passes are those of the options of a device context. Without a
time zone the configured one is meant. -/
structure DeviceArguments.Reads (a : DeviceArguments) (config : HostConfig) (o : DeviceOptions) :
    Prop where
  timeZone : match a.timeZone with
    | none => o.timeZone = config.device.timeZone
    | some zone => zone.text? = some o.timeZone
  systemLanguage : Names SystemLanguage.all a.systemLanguage o.systemLanguage
  region : Names RegionCode.all a.region o.region
  switches :
    (o.hostMapped, o.useNce, o.enableVsync, o.dockedMode, o.enablePtc, o.enableInternetAccess,
      o.ignoreMissingServices) =
    (a.hostMapped, a.useNce, a.enableVsync, a.dockedMode, a.enablePtc, a.enableInternetAccess,
      a.ignoreMissingServices)

/-- The options of a device are decoded likewise, once the time zone is settled. -/
theorem DeviceArguments.options_iff {a : DeviceArguments} {config : HostConfig}
    {o : DeviceOptions} {zone : String}
    (zoned : match a.timeZone with
      | none => zone = config.device.timeZone
      | some passed => passed.text? = some zone) :
    a.options zone = .ok o ↔ a.Reads config o := by
  simp only [options, SystemLanguage.ofCode, RegionCode.ofCode]
  cases language : lookUpCode "SystemLanguage" SystemLanguage.all a.systemLanguage with
  | error e =>
    refine ⟨nofun, fun reads => ?_⟩
    cases language.symm.trans (lookUpCode_iff.mpr reads.systemLanguage)
  | ok l =>
    cases region : lookUpCode "RegionCode" RegionCode.all a.region with
    | error e =>
      refine ⟨nofun, fun reads => ?_⟩
      cases region.symm.trans (lookUpCode_iff.mpr reads.region)
    | ok r =>
      constructor
      · rintro ⟨⟩
        exact ⟨zoned, lookUpCode_iff.mp language, lookUpCode_iff.mp region, rfl⟩
      · rintro ⟨own, languages, regions, switches⟩
        cases language.symm.trans (lookUpCode_iff.mpr languages)
        cases region.symm.trans (lookUpCode_iff.mpr regions)
        -- a zone that was passed reads as one text only
        have same : zone = o.timeZone := by
          cases passed : a.timeZone with
          | none =>
            rw [passed] at own zoned
            exact zoned.trans own.symm
          | some text =>
            rw [passed] at own zoned
            exact Option.some.inj (zoned.symm.trans own)
        simp only [Prod.mk.injEq] at switches
        obtain ⟨s1, s2, s3, s4, s5, s6, s7⟩ := switches
        rw [same, ← s1, ← s2, ← s3, ← s4, ← s5, ← s6, ← s7]
        rfl

/-- A negative number means a slot that there is not, any other one the slot of its own. -/
theorem slotOf_cases (index : Int) :
    index < 0 ∧ slotCount ≤ slotOf index ∨ 0 ≤ index ∧ slotOf index = index.toNat := by
  rw [slotOf]
  by_cases negative : index < 0
  · rw [if_pos negative]
    exact .inl ⟨negative, by decide⟩
  · rw [if_neg negative]
    exact .inr ⟨by omega, rfl⟩

namespace EntryFunction

/-! ## The call that is asked for -/

/-- The call to a session that an entry function stands for. -/
inductive Asks (config : HostConfig) : EntryFunction → HostCall → Prop where
  | initializeDevice {a : DeviceArguments} {o : DeviceOptions} (reads : a.Reads config o) :
      Asks config (.initializeDevice a) (.initializeDevice o)
  | reloadFiles : Asks config .reloadFiles .reloadFiles
  /-- There has to be a path, and it has to be text. -/
  | load {path : HostString} {text : String} (reads : path.text? = some text) :
      Asks config (.load (some path)) (.load text)
  | installFirmware (descriptor : Int) (isXci : Bool) :
      Asks config (.installFirmware descriptor isXci)
        (.installFirmware (.descriptor descriptor) isXci)
  | firmwareVersion : Asks config .firmwareVersion .firmwareVersion
  | figures : Asks config .figures .figures
  | configureGraphics {raw : RawGraphicsConfig} {c : GraphicsConfig} (reads : raw.Reads c) :
      Asks config (.configureGraphics raw) (.configureGraphics c)
  | initializeRenderer {code : Int} {backend : Backend} (names : Names Backend.all code backend)
      (table : InteropTable) :
      Asks config (.initializeRenderer code table) (.initializeRenderer backend table)
  | setSize (width height : Int) : Asks config (.setSize width height) (.setSize width height)
  | runLoop : Asks config .runLoop .runLoop
  | setVsync (enabled : Bool) : Asks config (.setVsync enabled) (.setVsync enabled)
  | setCallback (callback : Option SwapCallback) :
      Asks config (.setCallback callback) (.setCallback callback)
  | requestStop : Asks config .requestStop .requestStop
  | tearDown : Asks config .tearDown .tearDown
  | openClient (width height : Int) :
      Asks config (.openClient width height) (.input (.openClient width height))
  | resizeClient (width height : Int) :
      Asks config (.resizeClient width height) (.input (.resizeClient width height))
  | touch (x y : Int) : Asks config (.touch x y) (.input (.touch x y))
  | releaseTouch : Asks config .releaseTouch (.input .releaseTouch)
  | update : Asks config .update (.input .update)
  | press {code : Int} {button : Button} (names : Names Button.all code button) (index : Int) :
      Asks config (.press code index) (.input (.press button (slotOf index)))
  | release {code : Int} {button : Button} (names : Names Button.all code button) (index : Int) :
      Asks config (.release code index) (.input (.release button (slotOf index)))
  | accelerometer (value : Vec3 Binary32) (index : Int) :
      Asks config (.accelerometer value index) (.input (.accelerometer value (slotOf index)))
  | gyro (value : Vec3 Binary32) (index : Int) :
      Asks config (.gyro value index) (.input (.gyro value (slotOf index)))
  | moveStick {code : Int} {stick : Stick} (names : Names Stick.all code stick)
      (value : Vec2 Binary32) (index : Int) :
      Asks config (.moveStick code value index) (.input (.moveStick stick value (slotOf index)))
  | connect (index : Int) : Asks config (.connect index) (.input (.connect (slotOf index)))

variable {f : EntryFunction} {config : HostConfig} {c : HostCall}

/-- A call that needs a code is asked for with one that is known. -/
theorem withCode_iff {α : Type} {code : Except UnknownCode α} {call : α → HostCall} :
    f.withCode code call = .call c ↔ ∃ a, code = .ok a ∧ call a = c := by
  cases code with
  | error e => exact ⟨nofun, nofun⟩
  | ok a =>
    constructor
    · rintro ⟨⟩
      exact ⟨a, rfl, rfl⟩
    · rintro ⟨_, ⟨⟩, rfl⟩
      rfl

/-- And so is a call of the router. -/
theorem withInputCode_iff {α : Type} {kind : String} {code : Except UnknownCode α}
    {call : α → InputCall} :
    withInputCode kind code call = .call c ↔ ∃ a, code = .ok a ∧ .input (call a) = c := by
  cases code with
  | error e => exact ⟨nofun, nofun⟩
  | ok a =>
    constructor
    · rintro ⟨⟩
      exact ⟨a, rfl, rfl⟩
    · rintro ⟨_, ⟨⟩, rfl⟩
      rfl

/-- The call for a device needs its time zone and its codes. -/
theorem convertDevice_iff {a : DeviceArguments} :
    f.convertDevice config a = .call c ↔ ∃ o, a.Reads config o ∧ .initializeDevice o = c := by
  -- where the zone comes from does not matter to the codes
  have coded {zone : String} (zoned : match a.timeZone with
      | none => zone = config.device.timeZone
      | some passed => passed.text? = some zone) :
      f.withCode (a.options zone) .initializeDevice = .call c ↔
        ∃ o, a.Reads config o ∧ .initializeDevice o = c := by
    rw [withCode_iff]
    exact exists_congr fun o => and_congr_left fun _ => DeviceArguments.options_iff zoned
  rw [convertDevice]
  cases passed : a.timeZone with
  | none => exact coded (by rw [passed])
  | some zone =>
    cases text : zone.text? with
    | none =>
      simp only [Option.map_some, text]
      -- a zone that is no text asks for nothing
      refine ⟨nofun, ?_⟩
      rintro ⟨o, reads, -⟩
      have own := reads.timeZone
      rw [passed] at own
      cases text.symm.trans own
    | some zone =>
      simp only [Option.map_some, text]
      exact coded (by rw [passed]; exact text)

/-- Arguments are converted to the call that they ask for. -/
theorem convert_iff : f.convert config = .call c ↔ f.Asks config c := by
  constructor
  · intro is
    cases f with
    | initializeDevice a =>
      obtain ⟨o, reads, rfl⟩ := convertDevice_iff.mp is
      exact .initializeDevice reads
    | load path =>
      cases text : path.bind (·.text?) with
      | none =>
        simp only [convert, text] at is
        cases is
      | some text' =>
        obtain ⟨passed, rfl, reads⟩ := Option.bind_eq_some_iff.mp text
        simp only [convert, text] at is
        cases is
        exact .load reads
    | configureGraphics raw =>
      obtain ⟨c, decoded, rfl⟩ := withCode_iff.mp is
      exact .configureGraphics (RawGraphicsConfig.decode_iff.mp decoded)
    | initializeRenderer code table =>
      obtain ⟨backend, found, rfl⟩ := withCode_iff.mp is
      exact .initializeRenderer (lookUpCode_iff.mp found) table
    | press code index =>
      obtain ⟨button, found, rfl⟩ := withInputCode_iff.mp is
      exact .press (lookUpCode_iff.mp found) index
    | release code index =>
      obtain ⟨button, found, rfl⟩ := withInputCode_iff.mp is
      exact .release (lookUpCode_iff.mp found) index
    | moveStick code value index =>
      obtain ⟨stick, found, rfl⟩ := withInputCode_iff.mp is
      exact .moveStick (lookUpCode_iff.mp found) value index
    -- the other functions take no code, so any arguments are good
    | _ =>
      cases is
      constructor
  · intro asks
    cases asks with
    | initializeDevice reads => exact convertDevice_iff.mpr ⟨_, reads, rfl⟩
    | load reads => simp only [convert, Option.bind_some, reads]
    | configureGraphics reads =>
      exact withCode_iff.mpr ⟨_, RawGraphicsConfig.decode_iff.mpr reads, rfl⟩
    | initializeRenderer names table => exact withCode_iff.mpr ⟨_, lookUpCode_iff.mpr names, rfl⟩
    | press names | release names | moveStick names =>
      exact withInputCode_iff.mpr ⟨_, lookUpCode_iff.mpr names, rfl⟩
    | _ => rfl

/-- Arguments that ask for no call are refused. -/
theorem convert_refused (unasked : ∀ c, ¬f.Asks config c) :
    ∃ line, f.convert config = .refused line := by
  cases converted : f.convert config with
  | call c => exact absurd (convert_iff.mp converted) (unasked c)
  | refused line => exact ⟨line, rfl⟩

end EntryFunction

/-! ## What the host is shown -/

/-- What the host is shown of an answer of the session, by what the function gives back. -/
inductive EntryResult.Shows : EntryResult → Answer → Answer → Prop where
  | succeeded {answer : Answer} (fine : (answer matches .failed _) = false) :
      Shows .flag answer (.flag true)
  | failed (e : Failure) : Shows .flag (.failed e) (.flag false)
  /-- No handle is 0. -/
  | handle {n : Nat} (positive : 0 < n) : Shows .handle (.number n) (.number n)
  | noHandle : Shows .handle .nothing (.number 0)
  | text {s : String} (whole : '\x00' ∉ s.toList) : Shows .text (.text s) (.text s)
  /-- A string of the host ends at the first zero, so there is none for this text. -/
  | untransferable {s : String} (zero : '\x00' ∈ s.toList) : Shows .text (.text s) .nothing
  | noText : Shows .text .nothing .nothing
  /-- A crash under the function is no text either. -/
  | textless (e : Failure) : Shows .text (.failed e) .nothing
  | figures (s : Statistics Binary64) : Shows .figures (.figures s) (.figures s)
  | nothing (answer : Answer) : Shows .nothing answer .nothing

namespace EntryFunction

variable {f : EntryFunction} {config : HostConfig} {c : HostCall}

/-- Functions with a flag show whether they went well. -/
theorem shows_flag (returns : f.returns = .flag) (answer : Answer) :
    f.returns.Shows answer (f.present answer) := by
  cases answer with
  | failed e =>
    have shown : f.present (.failed e) = .flag false := by rw [present, fallback, returns]
    rw [returns, shown]
    exact .failed e
  | _ =>
    simp only [present, returns]
    exact .succeeded rfl

/-- Functions without a result show nothing, whatever comes of them. -/
theorem shows_nothing (returns : f.returns = .nothing) (answer : Answer) :
    f.returns.Shows answer (f.present answer) := by
  have shown : f.present answer = .nothing := by
    cases answer <;> simp only [present, fallback, returns]
  rw [returns, shown]
  exact .nothing answer

/-- A version is shown as it is, and its absence, like a crash over the question, as no text. -/
theorem shows_version {κ : Type} (w : World κ) :
    let answer := (World.answering (·.elim .nothing .text) w.firmwareVersion).2
    EntryResult.text.Shows answer (present .firmwareVersion answer) := by
  rw [World.firmwareVersion]
  cases w.core.versionCrash with
  | some c => exact .textless (.crash c)
  | none =>
    cases w.core.firmware with
    | none => exact .noText
    | some s =>
      show EntryResult.text.Shows (.text s)
        (if s.toList.contains '\x00' then .nothing else .text s)
      split
      · rename_i zero
        exact .untransferable (List.contains_iff_mem.mp zero)
      · rename_i whole
        exact .text fun zero => whole (List.contains_iff_mem.mpr zero)

/-- A handle is shown as a positive number, and none as what failures show. -/
theorem shows_connect {r : Router} (positive : r.HandlesPositive) (slot : Nat) (index : Int) :
    let answer := Answer.ofInput (r.perform (.connect slot)).2.2
    EntryResult.handle.Shows answer (present (.connect index) answer) := by
  obtain ⟨-, answered⟩ | ⟨c, held, -, answered⟩ | ⟨-, -, -, answered⟩ := r.perform_connect slot
  · rw [answered]
    exact .noHandle
  · rw [answered]
    exact .handle (positive.held slot c held)
  · rw [answered]
    exact .handle positive.next

/-- What the host is shown of the answer to the call that it has asked for. -/
theorem shows {κ : Type} (asks : f.Asks config c) (loop : World.Loop κ) {w : World κ}
    (positive : w.router.HandlesPositive) :
    f.returns.Shows (w.perform loop c).2 (f.present (w.perform loop c).2) := by
  cases asks with
  | firmwareVersion => exact shows_version w
  | figures => exact .figures _
  | connect index => exact shows_connect positive (slotOf index) index
  | setVsync | setCallback | requestStop | touch | releaseTouch | update | press | release
  | accelerometer | gyro | moveStick => exact shows_nothing rfl _
  | _ => exact shows_flag rfl _

/-! ## Negative indices -/

/-- The index among the arguments. -/
def index? : EntryFunction → Option Int
  | .press _ index | .release _ index | .moveStick _ _ index => some index
  | .accelerometer _ index | .gyro _ index | .connect index => some index
  | _ => none

/-- Functions that take an index show the same for a call out of reach as for a failure. -/
theorem present_of_index {index : Int} (named : f.index? = some index) :
    f.present .nothing = f.fallback := by
  cases f with
  | press | release | moveStick | accelerometer | gyro | connect => rfl
  | _ => cases named

/-- With a negative index nothing is reached: there may be lines in the log, and that is all. -/
theorem perform_of_negative {κ : Type} {index : Int} (named : f.index? = some index)
    (negative : index < 0) (loop : World.Loop κ) (w : World κ) :
    ∃ lines, f.perform loop w = (w.log lines, f.fallback) := by
  -- a negative index wraps to one past all slots
  have past : slotCount ≤ slotOf index := by
    have := slotOf_cases index
    omega
  rw [perform]
  cases converted : f.convert w.config with
  | refused line => exact ⟨[line], rfl⟩
  | call c =>
    -- the router gets a call for a slot that it does not have
    have reaches : ∃ call, c = .input call ∧
        (call.slot? = some (slotOf index) ∨ call = .connect (slotOf index)) := by
      cases convert_iff.mp converted with
      | press | release | moveStick | accelerometer | gyro =>
        cases named
        exact ⟨_, rfl, .inl rfl⟩
      | connect =>
        cases named
        exact ⟨_, rfl, .inr rfl⟩
      | _ => cases named
    obtain ⟨call, rfl, reaches⟩ := reaches
    obtain ⟨same, silent⟩ := w.router.perform_out_of_reach past reaches
    have performed : w.perform loop (.input call) =
        (w.log (w.router.perform call).2.1, .nothing) := by
      simp only [World.perform, World.performInput, same, silent]
      rfl
    refine ⟨(w.router.perform call).2.1, ?_⟩
    simp only [performed, report, World.log_nil, present_of_index named]

end EntryFunction

end EmuHost
