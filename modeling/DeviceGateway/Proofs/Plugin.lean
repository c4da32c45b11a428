import DeviceGateway.Plugin
import Mathlib.Data.List.Induction
/-!
The life of a plugin, whatever is asked of it. The first load settles what all later ones come to,
a failure included, and no other gateway is ever built. Once the plugin is unloaded it has nothing
to give any more, whether it was loaded before or not.
-/
namespace DeviceGateway.Plugin

inductive Call where
  | load (c : Context)
  | unload
  | running

def Call.context? : Call → Option Context
  | .load c => some c
  | .unload | .running => none

def next (p : Plugin) : Call → Plugin
  | .load c => (p.load c).2
  | .unload => p.unload
  | .running => p

def after (calls : List Call) : Plugin := calls.foldl next {}

theorem after_concat (calls : List Call) (call : Call) :
    after (calls ++ [call]) = (after calls).next call :=
  List.foldl_append

/-! ### Gateways told apart -/

/-- A gateway by the number of those that were built before it. Those with one number are one and
the same. -/
structure Built where
  serial : Nat
  pipeline : Pipeline

/-- A plugin that numbers the gateways that it builds. -/
structure Tracked where
  first : Option (Except LoadError Built) := none
  unloaded : Bool := false
  built : Nat := 0

namespace Tracked

variable (t : Tracked)

/-- The plugin itself, which does not know of the numbers. -/
def plain : Plugin := ⟨t.first.map (·.map Built.pipeline), t.unloaded⟩

def load (c : Context) : Except LoadError Built × Tracked :=
  if t.unloaded then (.error .unloaded, t)
  else match t.first with
    | some result => (result, t)
    | none =>
      match c.pipeline? with
      | .ok p =>
        (.ok ⟨t.built, p⟩, { t with first := some (.ok ⟨t.built, p⟩), built := t.built + 1 })
      | .error e => (.error e, { t with first := some (.error e) })

def unload : Tracked := { t with unloaded := true }

def running? : Option Built := if t.unloaded then none else t.first.bind Except.toOption

def next : Call → Tracked
  | .load c => (t.load c).2
  | .unload => t.unload
  | .running => t

def after (calls : List Call) : Tracked := calls.foldl next {}

theorem after_concat (calls : List Call) (call : Call) :
    after (calls ++ [call]) = (after calls).next call :=
  List.foldl_append

/-- What a load gives, and what it makes of the plugin. -/
inductive Loads (c : Context) : Except LoadError Built → Tracked → Prop
  | gone : t.unloaded = true → Loads c (.error .unloaded) t
  | again {result : Except LoadError Built} : t.unloaded = false → t.first = some result →
      Loads c result t
  | anew {p : Pipeline} : t.unloaded = false → t.first = none → c.pipeline? = .ok p →
      Loads c (.ok ⟨t.built, p⟩)
        { t with first := some (.ok ⟨t.built, p⟩), built := t.built + 1 }
  | vain {e : LoadError} : t.unloaded = false → t.first = none → c.pipeline? = .error e →
      Loads c (.error e) { t with first := some (.error e) }

theorem loads (c : Context) : t.Loads c (t.load c).1 (t.load c).2 := by
  unfold load
  split
  · next hgone => exact .gone hgone
  · next hstays =>
    have hstays : t.unloaded = false := Bool.not_eq_true _ ▸ hstays
    split
    · next hfirst => exact .again hstays hfirst
    · next hfirst =>
      split
      · next hbuilt => exact .anew hstays hfirst hbuilt
      · next hfailed => exact .vain hstays hfirst hfailed

theorem load_unloaded (c : Context) : (t.load c).2.unloaded = t.unloaded := by
  have hload := t.loads c
  generalize (t.load c).1 = result, (t.load c).2 = after at hload
  cases hload <;> rfl

theorem load_gone (hgone : t.unloaded = true) (c : Context) :
    t.load c = (.error .unloaded, t) :=
  if_pos hgone

theorem load_first (hstays : t.unloaded = false) (c : Context) :
    (t.load c).2.first = some (t.load c).1 := by
  have hload := t.loads c
  generalize (t.load c).1 = result, (t.load c).2 = after at hload ⊢
  cases hload with
  | gone hgone =>
      rw [hstays] at hgone
      cases hgone
  | again _ hfirst => exact hfirst
  | anew => rfl
  | vain => rfl

/-- Numbers aside, a load is a load of the plugin. -/
theorem plain_load (c : Context) :
    t.plain.load c = ((t.load c).1.map Built.pipeline, (t.load c).2.plain) := by
  have hload := t.loads c
  generalize (t.load c).1 = result, (t.load c).2 = after at hload
  unfold Plugin.load plain
  cases hload with
  | gone hgone =>
      rw [hgone]
      rfl
  | again hstays hfirst =>
      rw [hstays, hfirst]
      rfl
  | anew hstays hfirst hbuilt =>
      rw [hstays, hfirst, hbuilt]
      rfl
  | vain hstays hfirst hfailed =>
      rw [hstays, hfirst, hfailed]
      rfl

theorem running?_of_stays (hstays : t.unloaded = false) :
    t.running? = t.first.bind Except.toOption :=
  if_neg (Bool.eq_false_iff.mp hstays)

theorem plain_running? : t.plain.running? = t.running?.map Built.pipeline := by
  obtain ⟨first, unloaded, built⟩ := t
  cases unloaded with
  | true => rfl
  | false =>
      cases first with
      | none => rfl
      | some result => cases result <;> rfl

theorem plain_next (call : Call) : (t.next call).plain = t.plain.next call := by
  cases call with
  | load c => exact (congrArg Prod.snd (t.plain_load c)).symm
  | unload => rfl
  | running => rfl

theorem plain_after (calls : List Call) : (after calls).plain = Plugin.after calls := by
  induction calls using List.reverseRecOn with
  | nil => rfl
  | append_singleton calls call ih =>
      rw [after_concat, Plugin.after_concat, plain_next, ih]

end Tracked

/-! ### What calls leave behind -/

/-- The context of the first load. -/
def firstContext? (calls : List Call) : Option Context := calls.findSome? Call.context?

/-- What a first load comes to: a failure if a password is empty, and otherwise the first gateway
that is built, the hooks of the context in their order and a gate after them. -/
def outcome (c : Context) : Except LoadError Built :=
  if c.credentials.root = "" ∨ c.credentials.plugin = "" then .error .emptyPassword
  else .ok ⟨0, ⟨c.hooks, ⟨c.credentials, c.snapshotLifetime⟩⟩⟩

theorem outcome_eq (c : Context) : outcome c = c.pipeline?.map (Built.mk 0) := by
  unfold outcome Context.pipeline?
  simp only [Bool.or_eq_true, String.isEmpty_iff]
  split <;> rfl

/-- What a plugin has come to by several calls. -/
structure Settled (calls : List Call) (t : Tracked) : Prop where
  unloaded : t.unloaded = true ↔ .unload ∈ calls
  first : .unload ∉ calls → t.first = (firstContext? calls).map outcome
  /-- Nothing is built but by a first load. -/
  built : t.first = none → t.built = 0

theorem firstContext?_concat (calls : List Call) (call : Call) :
    firstContext? (calls ++ [call]) = (firstContext? calls).or call.context? := by
  unfold firstContext?
  rw [List.findSome?_append]
  cases call <;> rfl

namespace Settled

variable {calls : List Call} {t : Tracked}

theorem start : Settled [] {} :=
  ⟨⟨nofun, nofun⟩, fun _ => rfl, fun _ => rfl⟩

/-- A load that is heard gives what the first one comes to, be it the first one itself. -/
theorem result (h : Settled calls t) (hstays : t.unloaded = false) (c : Context) :
    some (t.load c).1 = (firstContext? (calls ++ [.load c])).map outcome := by
  have hfirst := h.first (by rw [← h.unloaded, hstays]; exact Bool.false_ne_true)
  rw [firstContext?_concat]
  have hload := t.loads c
  generalize (t.load c).1 = result, (t.load c).2 = after at hload
  cases hcontext : firstContext? calls with
  | some first =>
      rw [hcontext, Option.map_some] at hfirst
      cases hload with
      | gone hgone =>
          rw [hstays] at hgone
          cases hgone
      | again _ hagain =>
          rw [← hagain, hfirst]
          rfl
      | anew _ hnone _ =>
          rw [hfirst] at hnone
          cases hnone
      | vain _ hnone _ =>
          rw [hfirst] at hnone
          cases hnone
  | none =>
      rw [hcontext, Option.map_none] at hfirst
      cases hload with
      | gone hgone =>
          rw [hstays] at hgone
          cases hgone
      | again _ hagain =>
          rw [hfirst] at hagain
          cases hagain
      | anew _ _ hbuilt =>
          rw [h.built hfirst, Option.none_or, Call.context?, Option.map_some, outcome_eq, hbuilt]
          rfl
      | vain _ _ hfailed =>
          rw [Option.none_or, Call.context?, Option.map_some, outcome_eq, hfailed]
          rfl

theorem load (h : Settled calls t) (c : Context) : Settled (calls ++ [.load c]) (t.load c).2 := by
  have hmem : .unload ∈ calls ++ [.load c] ↔ .unload ∈ calls := by simp
  cases hunloaded : t.unloaded with
  | true =>
      have hin := hmem.mpr (h.unloaded.mp hunloaded)
      rw [Tracked.load_gone _ hunloaded]
      exact ⟨⟨fun _ => hin, fun _ => hunloaded⟩, fun hout => absurd hin hout, h.built⟩
  | false =>
      have hkept := t.load_first hunloaded c
      refine ⟨?_, fun _ => hkept.trans (h.result hunloaded c), fun hnone => ?_⟩
      · rw [Tracked.load_unloaded, hmem, h.unloaded]
      · rw [hkept] at hnone
        cases hnone

theorem next (h : Settled calls t) (call : Call) : Settled (calls ++ [call]) (t.next call) := by
  cases call with
  | load c => exact h.load c
  | unload =>
      have hin : Call.unload ∈ calls ++ [.unload] := List.mem_append_right _ (.head _)
      exact ⟨⟨fun _ => hin, fun _ => rfl⟩, fun hout => absurd hin hout, h.built⟩
  | running =>
      refine ⟨?_, fun hout => ?_, h.built⟩
      · rw [List.mem_append, List.mem_singleton]
        exact h.unloaded.trans (or_iff_left (nofun)).symm
      · rw [firstContext?_concat, Call.context?, Option.or_none]
        exact h.first (mt (List.mem_append_left _) hout)

theorem after (calls : List Call) : Settled calls (Tracked.after calls) := by
  induction calls using List.reverseRecOn with
  | nil => exact start
  | append_singleton calls call ih =>
      rw [Tracked.after_concat]
      exact ih.next call

end Settled

/-- Before it is unloaded, a plugin gives what its first load came to, that load included, and a
gateway runs if there was one and it gave that gateway. Once unloaded it gives nothing, and nothing
runs. But for the numbers that is what the plugin itself gives. -/
theorem lifecycle (before : List Call) :
    let plugin := Tracked.after before
    (.unload ∉ before →
      (∀ c first, firstContext? (before ++ [.load c]) = some first →
        (plugin.load c).1 = outcome first) ∧
      ∀ g, plugin.running? = some g ↔
        ∃ first, firstContext? before = some first ∧ outcome first = .ok g) ∧
    (.unload ∈ before → (∀ c, (plugin.load c).1 = .error .unloaded) ∧ plugin.running? = none) ∧
    (∀ c, (plugin.load c).1.map Built.pipeline = ((Plugin.after before).load c).1) ∧
    plugin.running?.map Built.pipeline = (Plugin.after before).running? := by
  intro plugin
  have hsettled : Settled before plugin := .after before
  have hplain : plugin.plain = Plugin.after before := Tracked.plain_after before
  refine ⟨fun hout => ?_, fun hin => ?_, fun c => ?_, ?_⟩
  · have hstays : plugin.unloaded = false :=
      Bool.eq_false_iff.mpr (mt hsettled.unloaded.mp hout)
    constructor
    · intro c first hfirst
      have hresult := hsettled.result hstays c
      rw [hfirst] at hresult
      exact Option.some.inj hresult
    · intro g
      rw [Tracked.running?_of_stays _ hstays, hsettled.first hout]
      cases hfirst : firstContext? before with
      | none => simp
      | some first =>
          cases houtcome : outcome first with
          | ok built => simp [houtcome, Except.toOption]
          | error e => simp [houtcome, Except.toOption]
  · have hgone := hsettled.unloaded.mpr hin
    refine ⟨fun c => ?_, ?_⟩
    · rw [Tracked.load_gone _ hgone]
    · exact if_pos hgone
  · rw [← hplain, Tracked.plain_load]
  · rw [← hplain, Tracked.plain_running?]

def sound : Context := ⟨⟨"root", "plugin"⟩, 60, [{ name := "audit" }, { name := "quota" }]⟩

/-- A context without a password for the root user. -/
def careless : Context := ⟨⟨"", "plugin"⟩, 60, [{ name := "audit" }]⟩

theorem lifecycle_reloaded :
    let gateway : Built := ⟨0, ⟨sound.hooks, ⟨⟨"root", "plugin"⟩, 60⟩⟩⟩
    ((Tracked.after [.load sound, .running]).load careless).1 = .ok gateway ∧
      (Tracked.after [.load sound, .load careless]).running? = some gateway ∧
      ((Tracked.after [.load careless]).load sound).1 = .error .emptyPassword ∧
      (Tracked.after [.load careless, .load sound]).running? ≠ some gateway ∧
      ((Tracked.after [.running, .unload]).load sound).1 = .error .unloaded ∧
      (Tracked.after [.load sound, .unload, .load sound]).running? = none := by
  intro gateway
  have hsound : outcome sound = .ok gateway := if_neg (by decide)
  have hcareless : outcome careless = .error .emptyPassword := if_pos (by decide)
  refine ⟨?_, ?_, ?_, ?_, ?_, ?_⟩
  · rw [((lifecycle [.load sound, .running]).1 (by simp)).1 careless sound rfl, hsound]
  · exact (((lifecycle [.load sound, .load careless]).1 (by simp)).2 gateway).mpr
      ⟨sound, rfl, hsound⟩
  · rw [((lifecycle [.load careless]).1 (by simp)).1 sound careless rfl, hcareless]
  · intro hruns
    obtain ⟨first, hfirst, hbuilt⟩ :=
      (((lifecycle [.load careless, .load sound]).1 (by simp)).2 gateway).mp hruns
    cases hfirst
    rw [hcareless] at hbuilt
    cases hbuilt
  · exact ((lifecycle [.running, .unload]).2.1 (by simp)).1 sound
  · exact ((lifecycle [.load sound, .unload, .load sound]).2.1 (by simp)).2

end DeviceGateway.Plugin
