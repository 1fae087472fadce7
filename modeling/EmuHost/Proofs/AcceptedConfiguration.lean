import EmuHost.Proofs.GraphicsStages
import EmuHost.Proofs.RouterSlots
import EmuHost.Proofs.SessionHistory

/-!
# One accepted configuration

This file reads off a history what has been agreed on so far (`History.agreement`): the graphics
configuration that was accepted last, and the terms of the renderer that was made for it. It shows
that all who work in a session work from that: the core when it makes a renderer or a device
context, the renderer with each frame, the mapping of touches, and the answers to the host. What was
refused or has failed leaves no trace in it.

## Key results

- `SessionCall.Keeps.step`: whatever happens, a session keeps to what has been agreed on
- `SessionCall.accepted_configuration_shared`: so do all calls out of a session and all answers
-/

namespace EmuHost

/-! ## What has been agreed on -/

/-- What a renderer is made with, and what it says of itself. -/
structure RendererTerms where
  capabilities : Capabilities
  prefersThreading : Bool
  /-- Its highest anisotropy. -/
  ceiling : Binary32
  deriving DecidableEq

/-- The configuration that was accepted, and the terms of the renderer that was made for it. -/
structure Agreement where
  config : GraphicsConfig
  terms : Option RendererTerms := none
  deriving DecidableEq

namespace Agreement

variable (a : Agreement) (terms : RendererTerms)

/-- Whether the renderer's work runs on its own thread. -/
def Threaded : Prop :=
  a.config.backendThreading = .on ∨ a.config.backendThreading = .auto ∧ terms.prefersThreading

instance : Decidable (a.Threaded terms) := inferInstanceAs (Decidable (_ ∨ _))

/-- What there is to know of the renderer. -/
def info : RendererInfo where
  backend := terms.capabilities.backend
  threaded := a.Threaded terms
  maxAnisotropy := terms.ceiling

/-- What a device context is created with. -/
def device : DeviceContext where
  backend := terms.capabilities.backend
  threaded := a.Threaded terms
  aspectRatio := a.config.aspectRatio

/-- The configuration under the limit of the renderer. -/
def limited : GraphicsConfig :=
  { a.config with
    maxAnisotropy :=
      if terms.ceiling.lt a.config.maxAnisotropy then terms.ceiling else a.config.maxAnisotropy }

/-- The configuration under the limit of the renderer, once there is one. -/
def effective : GraphicsConfig := a.terms.elim a.config a.limited

/-- The limit is taken like the one that the graphics put on a configuration. -/
theorem limited_eq_clamp : a.limited terms = Graphics.clamp a.config terms.ceiling := by
  rw [limited, Graphics.clamp]
  split <;> rfl

/-- And the thread is decided on like the graphics decide it. -/
theorem threaded_eq_resolve :
    decide (a.Threaded terms) = a.config.backendThreading.resolve terms.prefersThreading := by
  cases threading : a.config.backendThreading <;>
    simp [Threaded, threading, BackendThreading.resolve]

/-- The shape of the screen that touches are mapped to. -/
def aspectRatio (agreed : Option Agreement) : AspectRatio :=
  agreed.elim .fixed16x9 (·.config.aspectRatio)

/-- What is agreed on after something that may have accepted a configuration or made a renderer. -/
def next (agreed : Option Agreement) (accepted : Option GraphicsConfig)
    (made : Option RendererTerms) : Option Agreement :=
  match accepted with
  | some c => some { config := c }
  | none => agreed.map fun a => { a with terms := made <|> a.terms }

/-- Nothing accepted and nothing made leaves what is agreed on. -/
theorem next_quiet (agreed : Option Agreement) : next agreed none none = agreed := by
  cases agreed <;> rfl

end Agreement

/-- The terms of the renderer that a call out of the session makes, if the core makes one and it does
not crash over the questions. -/
def Event.terms? (core : CoreScript SessionCall) : Event → Option RendererTerms
  | .createRenderer capabilities _ _ =>
    let renderer := core.renderer capabilities.backend
    if core.rendererReply = .success ∧ renderer.questionCrash? = none then
      some ⟨capabilities, renderer.prefersThreading, renderer.anisotropyCeiling⟩
    else none
  | _ => none

namespace Happening

/-- The configuration that is accepted. -/
def accepted? : Happening → Option GraphicsConfig
  | .made w (.host name call) =>
    if (SessionCall.perform w (.host name call)).2 = .success then call.graphicsConfig? w.config
    else none
  | _ => none

/-- The terms of the renderer that is made. -/
def terms? : Happening → Option RendererTerms
  | .made w call => ((Happening.made w call).events.filterMap (Event.terms? w.core)).getLast?
  | _ => none

/-- What is agreed on after what happens now. -/
def agreed (before : Option Agreement) (now : Happening) : Option Agreement :=
  Agreement.next before now.accepted? now.terms?

/-- Whether the aspect ratio is set on its own. -/
def setsAspectRatio : Happening → Bool
  | .made _ (.host _ (.input (.setAspectRatio _))) => true
  | _ => false

end Happening

namespace History

/-- Whether the aspect ratio is never set on its own. -/
def Indirect (h : History) : Prop := ∀ now ∈ h, now.setsAspectRatio = false

/-- What has been agreed on. -/
def agreement (h : History) : Option Agreement := h.foldl Happening.agreed none

/-- What happens last is agreed on last. -/
theorem agreement_concat (h : History) (now : Happening) :
    agreement (h ++ [now]) = now.agreed h.agreement := by
  rw [agreement, List.foldl_append]
  rfl

/-- What settles nothing leaves the agreement. -/
theorem agreement_quiet (h : History) {now : Happening} (refused : now.accepted? = none)
    (unmade : now.terms? = none) : agreement (h ++ [now]) = h.agreement := by
  rw [agreement_concat, Happening.agreed, refused, unmade, Agreement.next_quiet]

end History

/-! ## Sessions that keep to it -/

/-- A session works from what has been agreed on, wherever it keeps it. Which of it there is depends
on the phase alone. -/
structure World.Agrees (w : World SessionCall) (agreed : Option Agreement) : Prop where
  parts : w.graphics.parts = w.graphics.phase.parts
  aspect : w.router.aspectRatio = Agreement.aspectRatio agreed
  requested : ∀ c, w.graphics.requested = some c → ∃ a, agreed = some a ∧ c = a.config
  effective : ∀ c, w.graphics.effectiveConfig = some c → ∃ a, agreed = some a ∧ c = a.effective
  info : ∀ info, w.graphics.info = some info →
    ∃ a terms, agreed = some a ∧ a.terms = some terms ∧ info = a.info terms

namespace SessionCall

variable {w v : World SessionCall} {h : History} {agreed : Option Agreement}

/-- A session keeps to what has been agreed on. A renderer limits the configuration from when it is
made until all is forgotten. -/
structure Keeps (agreed : Option Agreement) (w : World SessionCall) : Prop where
  aspect : w.router.aspectRatio = Agreement.aspectRatio agreed
  requested : ∀ c, w.graphics.requested = some c → ∃ a, agreed = some a ∧ c = a.config
  effective : ∀ c, w.graphics.effective = some c →
    ∃ a terms, agreed = some a ∧ a.terms = some terms ∧ c = a.limited terms
  info : ∀ info, w.graphics.info = some info →
    ∃ a terms, agreed = some a ∧ a.terms = some terms ∧ info = a.info terms
  unlimited : w.graphics.effective = none → ∀ c, w.graphics.requested = some c →
    ∀ a, agreed = some a → a.terms = none
  staged : w.graphics.Staged

namespace Keeps

/-- What a session keeps to is what it shows. -/
theorem agrees (keeps : Keeps agreed w) : w.Agrees agreed := by
  refine ⟨keeps.staged.parts, keeps.aspect, keeps.requested, fun c held => ?_, keeps.info⟩
  rw [Graphics.effectiveConfig] at held
  cases limits : w.graphics.effective with
  | some own =>
    obtain ⟨a, terms, is, made, limited⟩ := keeps.effective own limits
    rw [limits] at held
    cases held
    -- the limits that it shows are those of the terms
    refine ⟨a, is, ?_⟩
    rw [limited, Agreement.effective, made]
    rfl
  | none =>
    rw [limits] at held
    replace held : w.graphics.requested = some c := held
    obtain ⟨a, is, rfl⟩ := keeps.requested c held
    -- no renderer was made yet, so the configuration holds as it is
    refine ⟨a, is, ?_⟩
    rw [Agreement.effective, keeps.unlimited limits _ held a is]
    rfl

/-- Before a configuration is accepted there is nothing of it. -/
theorem blank (keeps : Keeps agreed w) (blank : w.graphics.phase = .uninitialized) :
    w.graphics.effective = none ∧ w.graphics.info = none := by
  have parts := keeps.staged.parts
  rw [blank, Graphics.parts, Phase.parts, GraphicsParts.mk.injEq] at parts
  obtain ⟨-, effective, info, -⟩ := parts
  exact ⟨Option.isSome_eq_false_iff.mp effective |> Option.isNone_iff_eq_none.mp,
    Option.isSome_eq_false_iff.mp info |> Option.isNone_iff_eq_none.mp⟩

/-- Where the settings are the same, so is what they follow. -/
theorem keep (keeps : Keeps agreed w) (requested : v.graphics.requested = w.graphics.requested)
    (effective : v.graphics.effective = w.graphics.effective)
    (info : v.graphics.info = w.graphics.info)
    (aspect : v.router.aspectRatio = w.router.aspectRatio) (staged : v.graphics.Staged) :
    Keeps agreed v := by
  -- each part is copied over
  refine ⟨aspect.trans keeps.aspect, ?_, ?_, ?_, ?_, staged⟩
  · rw [requested]
    exact keeps.requested
  · rw [effective]
    exact keeps.effective
  · rw [info]
    exact keeps.info
  · rw [effective, requested]
    exact keeps.unlimited

end Keeps

/-- A call that is not answered with a renderer has made none. -/
theorem terms?_of_plain {call : HostCall} {answer : Answer} {calls : List Event}
    (out : ∀ e ∈ calls, w.CallsOut call answer e) (plain : answer.renderer? = none) :
    calls.filterMap (Event.terms? w.core) = [] := by
  rw [List.filterMap_eq_nil_iff]
  intro e mem
  cases e with
  | createRenderer capabilities c probes =>
    rw [Event.terms?, if_neg]
    rintro ⟨success, stands⟩
    have made := (out _ mem).made capabilities c probes rfl success stands
    rw [made] at plain
    cases plain
  | _ => rfl

namespace Keeps

/-- What a call settles: nothing, if it has accepted no configuration and made no renderer. -/
theorem unsettled (keeps : Keeps agreed v) {accepted : Option GraphicsConfig}
    {made : List RendererTerms} (unaccepted : accepted = none) (unmade : made = []) :
    Keeps (Agreement.next agreed accepted made.getLast?) v ∧
      (made.getLast?.isSome → v.graphics.info.isSome) := by
  rw [unaccepted, unmade, List.getLast?_nil, Agreement.next_quiet]
  exact ⟨keeps, nofun⟩

/-- A configuration that is accepted is the one that holds from then on. -/
theorem configured (keeps : Keeps agreed w) {c : GraphicsConfig}
    (blank : w.graphics.phase = .uninitialized)
    (graphics : v.graphics = { w.graphics with requested := some c, phase := .configured })
    (aspect : v.router.aspectRatio = c.aspectRatio) (staged : v.graphics.Staged) :
    Keeps (some { config := c }) v := by
  -- a session that is blank keeps no limits and no renderer
  obtain ⟨unlimited, uninformed⟩ := keeps.blank blank
  refine ⟨aspect, ?_, ?_, ?_, ?_, staged⟩
  · rw [graphics]
    rintro _ ⟨⟩
    exact ⟨_, rfl, rfl⟩
  · rw [graphics, unlimited]
    exact fun c held => nomatch held
  · rw [graphics, uninformed]
    exact fun info held => nomatch held
  · rintro - - - _ ⟨⟩
    rfl

/-- A renderer that is taken over adds its terms. -/
theorem created {a : Agreement} (keeps : Keeps (some a) w) {capabilities : Capabilities}
    {renderer : Renderer SessionCall} (backend : renderer.backend = capabilities.backend)
    (requested : w.graphics.requested = some a.config) (staged : v.graphics.Staged)
    (graphics : v.graphics = (w.graphics.adopt a.config renderer).state)
    (router : v.router = w.router) :
    let terms : RendererTerms :=
      ⟨capabilities, renderer.prefersThreading, renderer.anisotropyCeiling⟩
    Keeps (some { a with terms := some terms }) v ∧ v.graphics.info = some (a.info terms) := by
  intro terms
  -- the renderer is adopted with the limits and the information that its terms give
  have limits : v.graphics.effective = some (a.limited terms) := by
    rw [graphics, Agreement.limited_eq_clamp]
    rfl
  have info : v.graphics.info = some (a.info terms) := by
    rw [graphics, Agreement.info, Agreement.threaded_eq_resolve, ← backend]
    rfl
  have same : v.graphics.requested = some a.config := by
    rw [graphics]
    exact requested
  refine ⟨⟨?_, ?_, ?_, ?_, ?_, staged⟩, info⟩
  · rw [router]
    exact keeps.aspect
  · intro c held
    cases same.symm.trans held
    exact ⟨_, rfl, rfl⟩
  · intro c held
    cases limits.symm.trans held
    exact ⟨_, _, rfl, rfl, rfl⟩
  · intro own held
    cases info.symm.trans held
    exact ⟨_, _, rfl, rfl, rfl⟩
  -- there are limits now
  · exact fun unlimited => nomatch limits.symm.trans unlimited

/-- A teardown forgets the configuration, but not the shape of the screen. -/
theorem forgotten (keeps : Keeps agreed w) {s : Surface} {statistics : Statistics Binary64}
    (graphics : v.graphics = { surface := s, statistics := statistics })
    (router : v.router = w.router) (staged : v.graphics.Staged) : Keeps agreed v := by
  -- all that could be out of step is gone
  refine ⟨?_, ?_, ?_, ?_, ?_, staged⟩
  · rw [router]
    exact keeps.aspect
  · rw [graphics]
    exact fun c held => nomatch held
  · rw [graphics]
    exact fun c held => nomatch held
  · rw [graphics]
    exact fun own held => nomatch held
  · rw [graphics]
    exact fun _ c held => nomatch held

/-- What a call settles is agreed on from then on, and a renderer that it makes can be seen. -/
theorem settle (keeps : Keeps agreed w) {call : HostCall} {answer : Answer}
    {calls : List Event} (effect : w.Effect call v answer)
    (indirect : ∀ aspect, call ≠ .input (.setAspectRatio aspect))
    (noted : v.events = w.events ++ calls) :
    let accepted := if answer = .success then call.graphicsConfig? w.config else none
    let made := (calls.filterMap (Event.terms? w.core)).getLast?
    Keeps (Agreement.next agreed accepted made) v ∧ (made.isSome → v.graphics.info.isSome) := by
  intro accepted made
  have staged := effect.staged keeps.staged
  have told {own : List Event} (called : v.events = w.events ++ own) : calls = own :=
    List.append_cancel_left (noted.symm.trans called)
  obtain ⟨own, called, out⟩ := effect.events
  obtain rfl := told called
  -- most ways settle nothing
  have plain (unaccepted : answer = .success → call.graphicsConfig? w.config = none)
      (silent : answer.renderer? = none) (kept : Keeps agreed v) :
      Keeps (Agreement.next agreed accepted made) v ∧ (made.isSome → v.graphics.info.isSome) := by
    refine kept.unsettled ?_ (terms?_of_plain out silent)
    by_cases success : answer = .success
    · exact (if_pos success).trans (unaccepted success)
    · exact if_neg success
  cases effect with
  | looked looks =>
    -- a look asks for nothing
    have unasked : call.graphicsConfig? w.config = none := by
      cases call <;> first | rfl | cases looks
    refine keeps.unsettled ?_ ?_
    · simp only [accepted, unasked, ite_self]
    · rw [told (List.append_nil _).symm]
      rfl
  | refused | uncreated | dropped | unserved =>
    exact plain nofun rfl (keeps.keep rfl rfl rfl rfl staged)
  | input call =>
    have silent : (w.performInput call).2.renderer? = none := by
      -- the router never answers with a renderer
      show (Answer.ofInput (w.router.perform call).2.2).renderer? = none
      cases (w.router.perform call).2.2 <;> rfl
    have aspect : (w.router.perform call).1.aspectRatio = w.router.aspectRatio :=
      w.router.perform_aspectRatio fun aspect is => indirect aspect (congrArg HostCall.input is)
    exact plain (fun _ => rfl) silent (keeps.keep rfl rfl rfl aspect staged)
  | configured asked blank =>
    have unmade : made = none := congrArg List.getLast? (terms?_of_plain out rfl)
    have settled : accepted = some _ := (if_pos rfl).trans asked
    rw [unmade, settled]
    exact ⟨keeps.configured blank rfl rfl staged, nofun⟩
  | @created _ _ _ asks configured c requested lines capabilities _ success stands =>
    obtain ⟨a, rfl, rfl⟩ := keeps.requested c requested
    -- of the calls there is only the one that has made the renderer
    have only := told ((World.events_log ..).trans (w.askedForRenderer_events _ _ _))
    have new : made = some ⟨capabilities, (w.core.renderer capabilities.backend).prefersThreading,
        (w.core.renderer capabilities.backend).anisotropyCeiling⟩ := by
      show (calls.filterMap (Event.terms? w.core)).getLast? = _
      rw [only, List.filterMap_cons, Event.terms?, if_pos ⟨success, stands⟩]
      rfl
    rw [new]
    refine (keeps.created rfl requested staged rfl rfl).imp_right fun informed _ => ?_
    rw [informed]
    rfl
  | sized | vsynced | installed | stopRequested | reloaded | updated =>
    exact plain (fun _ => rfl) rfl (keeps.keep rfl rfl rfl rfl staged)
  | tornDown => exact plain (fun _ => rfl) rfl (keeps.forgotten rfl rfl staged)
  | device uses touches called silent =>
    have unasked : call.graphicsConfig? w.config = none := by
      cases call <;> first | rfl | cases uses
    refine plain (fun _ => unasked) silent (keeps.keep ?_ ?_ ?_ ?_ staged) <;> rw [touches.same]

end Keeps

end SessionCall

/-! ## Calls and answers -/

/-- What a call out of a session is given, after what has been agreed on. -/
def Event.Follows (agreed : Option Agreement) : Event → Prop
  | .createRenderer _ c _ => ∃ a, agreed = some a ∧ c = a.config
  | .createDevice _ context =>
    ∃ a terms, agreed = some a ∧ a.terms = some terms ∧ context = a.device terms
  | .submit s => ∃ a terms, agreed = some a ∧ a.terms = some terms ∧ s.config = a.limited terms
  | _ => True

/-- What an answer shows of the configuration. -/
def Answer.Follows (agreed : Option Agreement) : Answer → Prop
  | .configurations requested effective =>
    (∀ c, requested = some c → ∃ a, agreed = some a ∧ c = a.config) ∧
      ∀ c, effective = some c → ∃ a, agreed = some a ∧ c = a.effective
  | .renderer info => ∃ a terms, agreed = some a ∧ a.terms = some terms ∧ info = a.info terms
  | _ => True

namespace World

variable {w v : World SessionCall} {agreed : Option Agreement}

/-- The renderer of an answer is the one that the session has then. -/
theorem Effect.shows {call : HostCall} {answer : Answer} (effect : w.Effect call v answer)
    {info : RendererInfo} (shown : answer.renderer? = some info) : v.graphics.info = some info := by
  cases effect with
  | looked looks shows => exact shows info shown
  | created => exact shown
  | input call =>
    have plain : (Answer.ofInput (w.router.perform call).2.2).renderer? = none := by
      cases (w.router.perform call).2.2 <;> rfl
    cases plain.symm.trans shown
  | device uses touches called plain => cases plain.symm.trans shown
  | _ => cases shown

theorem answering_follows {α : Type} {present : α → Answer}
    {outcome : World SessionCall × Except Failure α}
    (follows : ∀ a, (answering present outcome).2 = present a → (present a).Follows agreed) :
    (answering present outcome).2.Follows agreed := by
  obtain ⟨v, f | a⟩ := outcome
  · trivial
  · exact follows a rfl

/-- The answer to a call follows what is agreed on when it is given. -/
theorem perform_follows {call : HostCall} (agrees : (w.perform refuseLoop call).1.Agrees agreed)
    (shows : ∀ info, (w.perform refuseLoop call).2.renderer? = some info →
      (w.perform refuseLoop call).1.graphics.info = some info) :
    (w.perform refuseLoop call).2.Follows agreed := by
  -- a renderer in the answer is the one that the session keeps
  have shown (info : RendererInfo) (is : (w.perform refuseLoop call).2 = .renderer info) :
      (Answer.renderer info).Follows agreed :=
    agrees.info info (shows info (congrArg Answer.renderer? is))
  cases call with
  | configurations => exact ⟨agrees.requested, agrees.effective⟩
  | initializeRenderer | initializeRendererWith => exact answering_follows shown
  | rendererInfo =>
    simp only [perform] at shown ⊢
    cases held : w.graphics.info with
    | none => trivial
    | some info => exact shown info (congrArg (Option.elim · Answer.nothing Answer.renderer) held)
  | input call =>
    show (Answer.ofInput (w.router.perform call).2.2).Follows agreed
    cases (w.router.perform call).2.2 <;> trivial
  | firmwareVersion =>
    refine answering_follows fun version _ => ?_
    cases version <;> trivial
  | configureGraphics | configureGraphicsDefault | setSize | setVsync | requestStop | tearDown
  | runLoop | initializeDevice | initializeDeviceDefault | load | reloadFiles | installFirmware =>
    exact answering_follows fun _ _ => trivial
  | setCallback | phase | geometry | counters | figures | config | deviceState => trivial

/-- A device context is created with what was agreed on. -/
theorem deviceContext?_follows (keeps : SessionCall.Keeps agreed w) {context : DeviceContext}
    (ready : w.deviceContext? = some context) :
    ∃ a terms, agreed = some a ∧ a.terms = some terms ∧ context = a.device terms := by
  simp only [deviceContext?] at ready
  split at ready
  · rename_i info config informed limited
    obtain ⟨a, terms, rfl, made, rfl⟩ := keeps.info info informed
    obtain ⟨_, ⟨⟩, rfl⟩ := keeps.agrees.effective config limited
    refine ⟨a, terms, rfl, made, ?_⟩
    split at ready
    · cases ready
      rw [Agreement.effective, made]
      rfl
    · cases ready
  · cases ready

/-- The calls out of a session follow what was agreed on before. -/
theorem perform_calls_follow {call : HostCall} {calls : List Event}
    (keeps : SessionCall.Keeps agreed w)
    (noted : (w.perform refuseLoop call).1.events = w.events ++ calls) :
    ∀ e ∈ calls, e.Follows agreed := by
  intro e mem
  obtain ⟨own, events, out⟩ := (w.perform_refuseLoop_effect call).events
  obtain rfl := List.append_cancel_left (noted.symm.trans events)
  cases e with
  | createRenderer capabilities c probes =>
    exact keeps.requested c ((out _ mem).requested capabilities c probes rfl)
  -- the settings were there before the call
  -- a device context is created under the settings that were there for one
  | createDevice options context =>
    obtain ⟨-, reaches⟩ := (out _ mem).device rfl
    cases reaches with
    | created options ready => exact deviceContext?_follows keeps ready
  | submit s => cases (out _ mem).frameless
  | _ => trivial

end World

namespace SessionCall

variable {w v : World SessionCall} {h : History}

/-- What is called and answered works from what has been agreed on. -/
structure WorksFromAgreement (before : History) (now : Happening) : Prop where
  calls : ∀ e ∈ now.events, e.Follows before.agreement
  states : ∀ w call, now = .made w call →
    w.Agrees before.agreement ∧
      (perform w call).1.Agrees (History.agreement (before ++ [now]))
  answers : ∀ w call, now = .made w call →
    (perform w call).2.Follows (History.agreement (before ++ [now]))
  /-- A renderer that is made can be seen. -/
  seen : ∀ w call, now = .made w call → now.terms?.isSome →
    (perform w call).1.graphics.info.isSome
  /-- Touches are published at the place that they have on a screen of the shape agreed on. -/
  touches : ∀ w name s, now = .made w (.host name (.input .update)) →
    (perform w (.host name (.input .update))).2 = .snapshot s →
    s.touch = (w.router.setAspectRatio (Agreement.aspectRatio before.agreement)).currentTouch

/-- The loop itself settles nothing. -/
theorem Keeps.unasked (keeps : Keeps h.agreement v) {now : Happening}
    (other : (now matches .made _ _) = false) (calls : ∀ e ∈ now.events, e.Follows h.agreement) :
    WorksFromAgreement h now ∧ Keeps (History.agreement (h ++ [now])) v := by
  cases now with
  | made => cases other
  | entered | started | told | ended | left =>
    rw [h.agreement_quiet rfl rfl]
    -- nothing in it is a call of the host
    refine ⟨⟨calls, ?_, ?_, ?_, ?_⟩, keeps⟩
    · rintro _ _ ⟨⟩
    · rintro _ _ ⟨⟩
    · rintro _ _ ⟨⟩
    · rintro _ _ _ ⟨⟩

/-- A call that does not reach the session settles nothing. -/
theorem Keeps.elsewhere (keeps : Keeps h.agreement w) {call : SessionCall}
    (other : (call matches .host _ _) = false) (same : (perform w call).1.events = w.events)
    (plain : (perform w call).2.Follows h.agreement) (kept : Keeps h.agreement (perform w call).1) :
    WorksFromAgreement h (.made w call) ∧
      Keeps (History.agreement (h ++ [.made w call])) (perform w call).1 := by
  -- no call out of the session, so no renderer
  have events : (Happening.made w call).events = [] := by
    rw [Happening.events, same, List.drop_length]
  have unmade : (Happening.made w call).terms? = none := by
    rw [Happening.terms?, events]
    rfl
  have agreement : History.agreement (h ++ [.made w call]) = h.agreement := by
    refine h.agreement_quiet ?_ unmade
    cases call with
    | host => cases other
    | script | unknown => rfl
  rw [agreement]
  refine ⟨⟨?_, ?_, ?_, ?_, ?_⟩, kept⟩
  · rw [events]
    exact List.forall_mem_nil _
  · rintro _ _ ⟨⟩
    rw [agreement]
    exact ⟨keeps.agrees, kept.agrees⟩
  · rintro _ _ ⟨⟩
    rw [agreement]
    exact plain
  · rintro _ _ ⟨⟩
    rw [unmade]
    rintro ⟨⟩
  · rintro _ _ _ ⟨⟩
    cases other

/-- A touch is published where the screen of the agreed shape has it. -/
theorem Keeps.touch (keeps : Keeps h.agreement w) {name : String} {s : Snapshot}
    (answered : (perform w (.host name (.input .update))).2 = .snapshot s) :
    s.touch = (w.router.setAspectRatio (Agreement.aspectRatio h.agreement)).currentTouch := by
  cases answered
  -- the router has the shape that was agreed on
  rw [← keeps.aspect]
  rfl

/-- A call of the host works from the agreement before it, and settles the one after it. -/
theorem Keeps.host (keeps : Keeps h.agreement w) {name : String} {call : HostCall}
    (single : perform w (.host name call) = w.perform World.refuseLoop call)
    (indirect : ∀ aspect, call ≠ .input (.setAspectRatio aspect)) :
    WorksFromAgreement h (.made w (.host name call)) ∧
      Keeps (History.agreement (h ++ [.made w (.host name call)]))
        (perform w (.host name call)).1 := by
  have effect := w.perform_refuseLoop_effect call
  obtain ⟨calls, noted, -⟩ := effect.events
  -- its calls out are those that it has added
  have events : (Happening.made w (.host name call)).events = calls := by
    rw [Happening.events, single, noted, List.drop_left]
  obtain ⟨kept, seen⟩ := keeps.settle effect indirect noted
  rw [← events, ← single] at kept seen
  rw [h.agreement_concat]
  refine ⟨⟨?_, ?_, ?_, ?_, ?_⟩, kept⟩
  · rw [events]
    exact World.perform_calls_follow keeps noted
  · rintro _ _ ⟨⟩
    rw [h.agreement_concat]
    exact ⟨keeps.agrees, kept.agrees⟩
  · rintro _ _ ⟨⟩
    rw [h.agreement_concat, single]
    refine World.perform_follows ?_ fun info => effect.shows
    rw [← single]
    exact kept.agrees
  · rintro _ _ ⟨⟩
    exact seen
  · rintro _ name s ⟨⟩ answered
    exact keeps.touch answered

/-- The loop submits frames under the limits that were agreed on. -/
theorem Keeps.told (keeps : Keeps h.agreement w) {e : Event} (other : e.isDeviceCall = false)
    (suits : e.SuitsLoop w.graphics) : e.Follows h.agreement := by
  cases e with
  | createRenderer => exact suits.elim
  | createDevice => cases other
  | submit s => exact keeps.effective s.config suits
  | _ => trivial

/-- Whatever happens, a session keeps to what has been agreed on. -/
theorem Keeps.step (keeps : Keeps h.agreement w) {now : Happening} (step : Step w now v)
    (indirect : now.setsAspectRatio = false) :
    WorksFromAgreement h now ∧ Keeps (History.agreement (h ++ [now])) v := by
  -- none of the steps of the loop settles anything
  have quiet : ∀ e ∈ ([] : List Event), e.Follows h.agreement := List.forall_mem_nil _
  have staged := keeps.staged
  cases step with
  | @made _ call single =>
    cases call with
    | host name call =>
      refine keeps.host single ?_
      rintro aspect rfl
      cases indirect
    | script change =>
      have kept : Keeps h.agreement (perform w (.script change)).1 :=
        keeps.keep rfl rfl rfl rfl staged
      exact keeps.elsewhere rfl rfl trivial kept
    | unknown name e => exact keeps.elsewhere rfl rfl trivial keeps
  | @told _ e other published suits =>
    have kept : Keeps h.agreement (w.record e) := keeps.keep rfl rfl rfl rfl staged
    exact kept.unasked rfl (List.forall_mem_singleton.mpr (keeps.told other suits))
  | entered ready renderer =>
    have kept : Keeps h.agreement (w.enterLoop renderer) :=
      keeps.keep rfl rfl rfl rfl (World.enterLoop_staged ready staged renderer)
    exact kept.unasked rfl quiet
  -- the phase is another one, but the parts that it keeps stay in order
  | @started r =>
    have kept : Keeps h.agreement r.begun :=
      keeps.keep rfl rfl rfl rfl ⟨staged.parts, staged.accepted, staged.limited⟩
    exact kept.unasked rfl quiet
  | finished r wasPresented =>
    have kept : Keeps h.agreement (w.countFrame r.frame.timing wasPresented) :=
      keeps.keep rfl rfl rfl rfl ⟨staged.parts, staged.accepted, staged.limited⟩
    exact kept.unasked rfl quiet
  | failed r f =>
    have kept : Keeps h.agreement (w.afterFrame r.index (.fault f)).1 := by
      cases f <;>
        exact keeps.keep rfl rfl rfl rfl ⟨staged.parts, staged.accepted, staged.limited⟩
    exact kept.unasked rfl quiet
  | stopped running | broken running =>
    have left := World.leaveLoop_staged running staged
    refine Keeps.unasked ?_ rfl quiet
    exact keeps.keep rfl rfl rfl rfl ⟨left.parts, left.accepted, left.limited⟩

/-- A new session has agreed on nothing. -/
theorem keeps_fresh (fresh : w.Fresh) : Keeps none w := by
  refine ⟨fresh.aspect, ?_, ?_, ?_, ?_, ?_⟩
  · rw [fresh.graphics]
    exact fun c held => nomatch held
  · rw [fresh.graphics]
    exact fun c held => nomatch held
  · rw [fresh.graphics]
    exact fun info held => nomatch held
  · exact fun _ _ _ a is => nomatch is
  · rw [fresh.graphics]
    exact Graphics.staged_fresh

/-- A session from `w` to `v` in which all work from one configuration at a time. -/
structure SharesConfiguration (w : World SessionCall) (h : History) (v : World SessionCall) :
    Prop where
  always : h.Always WorksFromAgreement
  agrees : v.Agrees h.agreement
  /-- There are no other calls out of the session. -/
  noted : v.events = w.events ++ h.flatMap Happening.events

/-- In a session that sets the aspect ratio with its configuration only, all work from the
configuration that was accepted last, and from the terms of the renderer that was made for it: the
core is asked for a renderer with that configuration as it is, frames are submitted and device
contexts created with it under these terms, touches are mapped at its aspect ratio, and the host is
told nothing else. Nothing that was refused or has failed changes any of this. -/
theorem accepted_configuration_shared {s : Surroundings SessionCall} {config : HostConfig}
    (opened : World.ofConfig s config = .ok w) (calls : List SessionCall)
    (indirect : (history w calls).Indirect) :
    SharesConfiguration w (history w calls) (after w calls) := by
  have trace := history_trace w calls
  -- a law for as long as nothing sets the aspect ratio
  have keeps (h : History) (w : World SessionCall) (now : Happening) (v : World SessionCall)
      (kept : h.Indirect → Keeps h.agreement w) (step : Step w now v) :
      (History.Indirect (h ++ [now]) → WorksFromAgreement h now) ∧
        (History.Indirect (h ++ [now]) → Keeps (History.agreement (h ++ [now])) v) := by
    rw [← imp_and]
    intro indirect
    obtain ⟨before, last⟩ := List.forall_mem_append.mp indirect
    exact (kept before).step step (last now (List.mem_singleton_self now))
  obtain ⟨always, kept⟩ :=
    trace.always keeps fun _ => keeps_fresh (World.fresh_of_ofConfig opened)
  refine ⟨fun before now later split => ?_, (kept indirect).agrees, trace.events⟩
  -- the law is asked for at a moment of the whole history, so the past up to it is part of that
  refine always before now later split fun some among => indirect some ?_
  rw [split, List.append_cons]
  exact List.mem_append_left later among

/-- A core whose renderer prefers a thread of its own and goes no higher than an anisotropy of 4. -/
def negotiating : Surroundings SessionCall where
  core :=
    { prefersThreading := true, anisotropyCeiling := .ofInt 4
      frames := [{ calls := [.host "update" (.input .update)], submitted := .idle }] }

/-- A wide picture at an anisotropy of 8: the first configuration is refused, the second one is
accepted and limited, the third one is too late. -/
theorem accepted_configuration_shared_limited :
    ∃ w, World.ofConfig negotiating {} = .ok w ∧ ∃ calls, (history w calls).Indirect ∧
      (history w calls).agreement.map (fun a => (a.config.maxAnisotropy,
        a.effective.maxAnisotropy, a.terms.map a.device)) =
          some (.ofInt 8, .ofInt 4, some ⟨.openGl, true, .fixed21x9⟩) ∧
      SharesConfiguration w (history w calls) (after w calls) := by
  let wide : GraphicsConfig := { aspectRatio := .fixed21x9, maxAnisotropy := .ofInt 8 }
  let calls : List SessionCall :=
    [.host "configure" (.configureGraphics { maxAnisotropy := .ofInt 32 }),
      .host "configure" (.configureGraphics wide), .host "configure" (.configureGraphics {}),
      .host "renderer" (.initializeRenderer .openGl { glGetProcAddress := true }),
      .host "device" .initializeDeviceDefault, .host "touch" (.input (.touch 3 4)),
      .host "loop" .runLoop]
  let w : World SessionCall := { negotiating with config := {}, router := {} }
  have opened : World.ofConfig negotiating {} = .ok w := rfl
  have indirect : (history w calls).Indirect := by unfold History.Indirect; decide
  exact ⟨w, opened, calls, indirect, by decide, accepted_configuration_shared opened calls indirect⟩

end SessionCall

end EmuHost
