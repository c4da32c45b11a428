import DeviceGateway.Topic.PatternCache
import Mathlib.Data.List.Nodup
/-!
A cache of patterns answers what a compilation would, whoever else uses it at the same time: looking
and keeping are steps of their own, and between them others may look, keep and empty the cache. Its
serial numbers tell the compilations of a sequential run apart.
-/
namespace DeviceGateway.Topic.PatternCache

variable {cache : PatternCache} {template : String} {mode : Mode} {c : Compiled}

theorem mem_of_lookup? (h : cache.lookup? template mode = some c) :
    ((template, mode), c) ∈ cache.entries := by
  obtain ⟨before, after, heq, -⟩ := List.lookup_eq_some_iff.mp h
  rw [heq]
  exact List.mem_append_cons_self

theorem ne_of_lookup?_none (h : cache.lookup? template mode = none) {e : (String × Mode) × Compiled}
    (he : e ∈ cache.entries) : e.1 ≠ (template, mode) :=
  fun heq => by simpa [heq] using List.lookup_eq_none_iff.mp h e he

theorem mem_insert {e : (String × Mode) × Compiled} :
    e ∈ (cache.insert template mode c).entries ↔
      e = ((template, mode), c) ∨
        cache.size < capacity ∧ e ∈ cache.entries ∧ e.1 ≠ (template, mode) := by
  unfold insert
  dsimp only
  rw [List.mem_cons, List.mem_filter, decide_eq_true_iff]
  split <;> simp [*]

theorem get_of_hit (h : cache.lookup? template mode = some c) :
    cache.get template mode = (c, cache) := by
  simp only [get, h]

theorem get_of_miss (h : cache.lookup? template mode = none) :
    cache.get template mode =
      ((cache.compile template mode).1,
        (cache.compile template mode).2.insert template mode (cache.compile template mode).1) := by
  simp only [get, h]

/-- Each entry is the compilation of its own key, no key has two, and there are not too many. -/
structure Sound (cache : PatternCache) : Prop where
  results : ∀ e ∈ cache.entries, e.2.result = Pattern.compile e.1.1 e.1.2
  keys : (cache.entries.map Prod.fst).Nodup
  bounded : cache.size ≤ capacity

namespace Sound

theorem empty : Sound empty := ⟨nofun, List.nodup_nil, Nat.zero_le _⟩

theorem lookup? (h : Sound cache) (hc : cache.lookup? template mode = some c) :
    c.result = Pattern.compile template mode := h.results _ (mem_of_lookup? hc)

theorem get_of_mem (h : Sound cache) (hc : ((template, mode), c) ∈ cache.entries) :
    cache.get template mode = (c, cache) := by
  cases hlook : cache.lookup? template mode with
  | none => exact absurd rfl (ne_of_lookup?_none hlook hc)
  | some found =>
      have hfound := mem_of_lookup? hlook
      obtain rfl : found = c :=
        (Prod.mk.inj (List.inj_on_of_nodup_map h.keys hfound hc rfl)).2
      exact get_of_hit hlook

theorem compile (h : Sound cache) (template : String) (mode : Mode) :
    Sound (cache.compile template mode).2 :=
  ⟨h.results, h.keys, h.bounded⟩

theorem insert (h : Sound cache) (hc : c.result = Pattern.compile template mode) :
    Sound (cache.insert template mode c) where
  results e he := by
    rcases mem_insert.mp he with rfl | ⟨-, hold, -⟩
    · exact hc
    · exact h.results e hold
  keys := by
    unfold PatternCache.insert
    dsimp only
    rw [List.map_cons, List.nodup_cons]
    constructor
    · intro hmem
      obtain ⟨e, he, hkey⟩ := List.mem_map.mp hmem
      exact of_decide_eq_true (List.mem_filter.mp he).2 hkey
    · apply List.Nodup.sublist (List.filter_sublist.map Prod.fst)
      split
      · exact h.keys
      · exact List.nodup_nil
  bounded := by
    unfold PatternCache.insert size
    dsimp only
    rw [List.length_cons]
    apply Nat.succ_le_of_lt
    apply Nat.lt_of_le_of_lt (List.length_filter_le _ _)
    -- Either there is room for one more, or everything goes.
    split
    · assumption
    · decide

theorem get (h : Sound cache) (template : String) (mode : Mode) :
    (cache.get template mode).1.result = Pattern.compile template mode ∧
      Sound (cache.get template mode).2 := by
  cases hlook : cache.lookup? template mode with
  | some c =>
      rw [get_of_hit hlook]
      exact ⟨h.lookup? hlook, h⟩
  | none =>
      rw [get_of_miss hlook]
      exact ⟨rfl, (h.compile template mode).insert rfl⟩

end Sound

/-- A call that has looked: what it answers, and whether it has yet to keep it. -/
structure Call where
  template : String
  mode : Mode
  answer : Compiled
  pending : Bool

/-- A cache, and the calls that were begun on it so far. -/
structure Shared where
  cache : PatternCache := {}
  calls : List Call := []

inductive Act where
  | look (template : String) (mode : Mode)
  | keep (i : Nat)
deriving DecidableEq

namespace Shared

/-- A call that finds nothing compiles by itself, and keeps that in another step. -/
def next (s : Shared) : Act → Shared
  | .look template mode =>
    match s.cache.lookup? template mode with
    | some c => { s with calls := s.calls ++ [⟨template, mode, c, false⟩] }
    | none =>
      let (c, cache) := s.cache.compile template mode
      ⟨cache, s.calls ++ [⟨template, mode, c, true⟩]⟩
  | .keep i =>
    match s.calls[i]? with
    | some ⟨template, mode, c, true⟩ =>
      ⟨s.cache.insert template mode c, s.calls.set i ⟨template, mode, c, false⟩⟩
    | _ => s

def run (s : Shared) (acts : List Act) : Shared := acts.foldl next s

/-- The two steps of a call that nothing comes between are a call. -/
theorem run_alone (s : Shared) (template : String) (mode : Mode) :
    s.run [.look template mode, .keep s.calls.length] =
      ⟨(s.cache.get template mode).2,
        s.calls ++ [⟨template, mode, (s.cache.get template mode).1, false⟩]⟩ := by
  have hlast (call : Call) : (s.calls ++ [call])[s.calls.length]? = some call :=
    List.getElem?_concat_length
  simp only [run, List.foldl_cons, List.foldl_nil]
  cases hlook : s.cache.lookup? template mode with
  | some c => simp only [next, hlook, hlast, get_of_hit hlook]
  | none =>
      simp only [next, hlook, hlast, get_of_miss hlook, List.set_append_right _ _ (Nat.le_refl _),
        Nat.sub_self, List.set_cons_zero]

/-- The cache is sound, and so is what each call has in hand, kept or not. -/
structure Sound (s : Shared) : Prop where
  cache : PatternCache.Sound s.cache
  calls : ∀ call ∈ s.calls, call.answer.result = Pattern.compile call.template call.mode

namespace Sound

variable {s : Shared}

theorem begin (h : ∀ call ∈ s.calls, call.answer.result = Pattern.compile call.template call.mode)
    {new : Call} (hnew : new.answer.result = Pattern.compile new.template new.mode) :
    ∀ call ∈ s.calls ++ [new],
      call.answer.result = Pattern.compile call.template call.mode := by
  intro call hcall
  rcases List.mem_append.mp hcall with hold | hcall
  · exact h call hold
  · rw [List.mem_singleton.mp hcall]
    exact hnew

theorem next (h : Sound s) (x : Act) : Sound (s.next x) := by
  cases x with
  | look template mode =>
      simp only [Shared.next]
      cases hlook : s.cache.lookup? template mode with
      | some c => exact ⟨h.cache, begin h.calls (h.cache.lookup? hlook)⟩
      | none => exact ⟨h.cache.compile template mode, begin h.calls rfl⟩
  | keep i =>
      simp only [Shared.next]
      split
      · next template mode c hi =>
        -- What the call compiled is right whatever has become of the cache since it looked.
        have hc : c.result = Pattern.compile template mode :=
          h.calls _ (List.mem_of_getElem? hi)
        refine ⟨h.cache.insert hc, fun call hcall => ?_⟩
        rcases List.mem_or_eq_of_mem_set hcall with hold | rfl
        · exact h.calls call hold
        · exact hc
      · exact h

theorem run (h : Sound s) (acts : List Act) : Sound (s.run acts) := by
  induction acts generalizing s with
  | nil => exact h
  | cons x rest ih => exact ih (h.next x)

end Sound

end Shared

/-- Serial numbers are given in turn, and no two entries share one. -/
structure Numbered (cache : PatternCache) : Prop where
  issued : ∀ e ∈ cache.entries, e.2.serial < cache.serials
  apart : ∀ e ∈ cache.entries, ∀ e' ∈ cache.entries, e.2.serial = e'.2.serial → e = e'

/-- The compilation of a serial number was made and is not kept any more. -/
structure Lost (cache : PatternCache) (serial : Nat) : Prop where
  issued : serial < cache.serials
  gone : ∀ e ∈ cache.entries, e.2.serial ≠ serial

/-- Whether a call empties the cache. -/
def clears (cache : PatternCache) (template : String) (mode : Mode) : Bool :=
  (cache.lookup? template mode).isNone && decide (capacity ≤ cache.size)

def ask (cache : PatternCache) (asked : List (String × Mode)) : PatternCache :=
  asked.foldl (fun cache a => (cache.get a.1 a.2).2) cache

def cleared (cache : PatternCache) : List (String × Mode) → Bool
  | [] => false
  | a :: rest => cache.clears a.1 a.2 || cleared (cache.get a.1 a.2).2 rest

theorem ask_preserves {P : PatternCache → Prop}
    (hget : ∀ {cache} template mode, P cache → P (PatternCache.get cache template mode).2)
    (h : P cache) (asked : List (String × Mode)) : P (cache.ask asked) :=
  List.foldlRecOn asked _ h fun _ hcache a _ => hget a.1 a.2 hcache

theorem Sound.ask (h : Sound cache) (asked : List (String × Mode)) : Sound (cache.ask asked) :=
  ask_preserves (fun template mode h => (h.get template mode).2) h asked

theorem serials_le_get (cache : PatternCache) (template : String) (mode : Mode) :
    cache.serials ≤ (cache.get template mode).2.serials := by
  cases hlook : cache.lookup? template mode with
  | some c => exact Nat.le_of_eq (by rw [get_of_hit hlook])
  | none =>
      rw [get_of_miss hlook]
      exact Nat.le_succ _

/-- An answer is kept, or was made just now with the serial number that was next. -/
theorem serial_get (cache : PatternCache) (template : String) (mode : Mode) :
    ((template, mode), (cache.get template mode).1) ∈ cache.entries ∨
      (cache.get template mode).1.serial = cache.serials ∧
        cache.serials < (cache.get template mode).2.serials := by
  cases hlook : cache.lookup? template mode with
  | some c =>
      rw [get_of_hit hlook]
      exact .inl (mem_of_lookup? hlook)
  | none =>
      rw [get_of_miss hlook]
      exact .inr ⟨rfl, Nat.lt_succ_self _⟩

/-- What is kept after a call was kept before, or is what the call has made. -/
theorem mem_get {e : (String × Mode) × Compiled} (he : e ∈ (cache.get template mode).2.entries) :
    e ∈ cache.entries ∨ e = ((template, mode), (cache.get template mode).1) := by
  cases hlook : cache.lookup? template mode with
  | some c =>
      rw [get_of_hit hlook] at he
      exact .inl he
  | none =>
      rw [get_of_miss hlook] at he ⊢
      exact (mem_insert.mp he).symm.imp (fun h => h.2.1) id

theorem get_mem (cache : PatternCache) (template : String) (mode : Mode) :
    ((template, mode), (cache.get template mode).1) ∈ (cache.get template mode).2.entries := by
  cases hlook : cache.lookup? template mode with
  | some c =>
      rw [get_of_hit hlook]
      exact mem_of_lookup? hlook
  | none =>
      rw [get_of_miss hlook]
      exact mem_insert.mpr (.inl rfl)

theorem mem_get_of_mem {e : (String × Mode) × Compiled} (he : e ∈ cache.entries)
    (hclear : cache.clears template mode = false) : e ∈ (cache.get template mode).2.entries := by
  cases hlook : cache.lookup? template mode with
  | some c =>
      rw [get_of_hit hlook]
      exact he
  | none =>
      have hroom : cache.size < capacity := by simpa [clears, hlook] using hclear
      rw [get_of_miss hlook]
      exact mem_insert.mpr (.inr ⟨hroom, he, ne_of_lookup?_none hlook he⟩)

theorem mem_ask {e : (String × Mode) × Compiled} {asked : List (String × Mode)}
    (he : e ∈ cache.entries) (hclear : cache.cleared asked = false) :
    e ∈ (cache.ask asked).entries := by
  induction asked generalizing cache with
  | nil => exact he
  | cons a rest ih =>
      obtain ⟨hfirst, hrest⟩ := Bool.or_eq_false_iff.mp hclear
      exact ih (mem_get_of_mem he hfirst) hrest

namespace Lost

variable {serial : Nat}

theorem serial_ne (h : Lost cache serial) (template : String) (mode : Mode) :
    (cache.get template mode).1.serial ≠ serial := by
  rcases serial_get cache template mode with hkept | ⟨hnew, -⟩
  · exact h.gone _ hkept
  · exact hnew ▸ (Nat.ne_of_lt h.issued).symm

theorem get (h : Lost cache serial) (template : String) (mode : Mode) :
    Lost (cache.get template mode).2 serial where
  issued := Nat.lt_of_lt_of_le h.issued (serials_le_get ..)
  gone e he := by
    rcases mem_get he with hold | rfl
    · exact h.gone e hold
    · exact h.serial_ne template mode

theorem ask (h : Lost cache serial) (asked : List (String × Mode)) :
    Lost (cache.ask asked) serial :=
  ask_preserves (P := (Lost · serial)) (fun template mode h => h.get template mode) h asked

end Lost

namespace Numbered

theorem empty : Numbered empty := ⟨nofun, nofun⟩

theorem get (h : Numbered cache) (template : String) (mode : Mode) :
    Numbered (cache.get template mode).2 := by
  rcases serial_get cache template mode with hkept | ⟨hserial, hlt⟩
  · have hold {e : (String × Mode) × Compiled} (he : e ∈ (cache.get template mode).2.entries) :
        e ∈ cache.entries := (mem_get he).elim id fun heq => heq ▸ hkept
    exact ⟨fun e he => Nat.lt_of_lt_of_le (h.issued e (hold he)) (serials_le_get ..),
      fun e he e' he' => h.apart e (hold he) e' (hold he')⟩
  · constructor
    · intro e he
      rcases mem_get he with hold | rfl
      · exact Nat.lt_trans (h.issued e hold) hlt
      · exact hserial ▸ hlt
    · intro e he e' he' heq
      rcases mem_get he with hold | rfl <;> rcases mem_get he' with hold' | rfl
      · exact h.apart e hold e' hold' heq
      · exact absurd (heq.trans hserial) (Nat.ne_of_lt (h.issued e hold))
      · exact absurd (heq.symm.trans hserial) (Nat.ne_of_lt (h.issued e' hold'))
      · rfl

theorem ask (h : Numbered cache) (asked : List (String × Mode)) : Numbered (cache.ask asked) :=
  ask_preserves (fun template mode h => h.get template mode) h asked

/-- A call that empties the cache leaves nothing of what was made before it. -/
theorem lost_get (h : Numbered cache) {e : (String × Mode) × Compiled} (he : e ∈ cache.entries)
    (hclear : cache.clears template mode = true) :
    Lost (cache.get template mode).2 e.2.serial := by
  obtain ⟨hnone, hfull⟩ := Bool.and_eq_true_iff.mp hclear
  have hlook : cache.lookup? template mode = none := Option.isNone_iff_eq_none.mp hnone
  refine ⟨Nat.lt_of_lt_of_le (h.issued e he) (serials_le_get ..), fun e' he' => ?_⟩
  rw [get_of_miss hlook] at he'
  rcases mem_insert.mp he' with rfl | ⟨hroom, -⟩
  · exact (Nat.ne_of_lt (h.issued e he)).symm
  · exact absurd (of_decide_eq_true hfull) (Nat.not_le_of_lt hroom)

theorem lost_ask (h : Numbered cache) {e : (String × Mode) × Compiled} (he : e ∈ cache.entries)
    {asked : List (String × Mode)} (hclear : cache.cleared asked = true) :
    Lost (cache.ask asked) e.2.serial := by
  induction asked generalizing cache with
  | nil => cases hclear
  | cons a rest ih =>
      cases hfirst : cache.clears a.1 a.2 with
      | true =>
          exact (h.lost_get he hfirst).ask rest
      | false =>
          rw [cleared, hfirst, Bool.false_or] at hclear
          exact ih (h.get ..) (mem_get_of_mem he hfirst) hclear

/-- A kept compilation answers its own key and no other. -/
theorem serial_get_eq_iff (h : Numbered cache) (hsound : Sound cache) {a b : String × Mode}
    (hc : (a, c) ∈ cache.entries) : c.serial = (cache.get b.1 b.2).1.serial ↔ a = b := by
  constructor
  · intro heq
    rcases serial_get cache b.1 b.2 with hkept | ⟨hnew, -⟩
    · exact congrArg Prod.fst (h.apart _ hc _ hkept heq)
    · exact absurd (heq.trans hnew) (Nat.ne_of_lt (h.issued _ hc))
  · rintro rfl
    rw [hsound.get_of_mem hc]

end Numbered

/-- A pattern from the cache is what a compilation would give, an error included: for each of many
calls at once, in whatever order they look and keep, for what is kept, and for the calls of a
sequential run. No more is kept than there is room for. Two calls of a sequential run get the same
compilation when they ask for the same and no call between them empties the cache, and only then. -/
theorem cache_transparent :
    (∀ acts : List Act,
      let s := Shared.run {} acts
      (∀ call ∈ s.calls, call.answer.result = Pattern.compile call.template call.mode) ∧
        (∀ e ∈ s.cache.entries, e.2.result = Pattern.compile e.1.1 e.1.2) ∧
        (s.cache.entries.map Prod.fst).Nodup ∧ s.cache.size ≤ 4096) ∧
    ∀ (before between : List (String × Mode)) (a b : String × Mode),
      let first := (empty.ask before).get a.1 a.2
      let second := (first.2.ask between).get b.1 b.2
      first.1.result = Pattern.compile a.1 a.2 ∧ second.1.result = Pattern.compile b.1 b.2 ∧
        (first.1.serial = second.1.serial ↔ a = b ∧ first.2.cleared between = false) := by
  constructor
  · intro acts s
    have hfresh : Shared.Sound {} := ⟨.empty, fun _ h => absurd h List.not_mem_nil⟩
    have h : Shared.Sound s := hfresh.run acts
    exact ⟨h.calls, h.cache.results, h.cache.keys, h.cache.bounded⟩
  · intro before between a b first second
    obtain ⟨hresult, hsound⟩ := (Sound.empty.ask before).get a.1 a.2
    have hnumbered : Numbered first.2 := (Numbered.empty.ask before).get a.1 a.2
    have hkept : (a, first.1) ∈ first.2.entries := get_mem ..
    have hsound' : Sound (first.2.ask between) := hsound.ask between
    refine ⟨hresult, (hsound'.get b.1 b.2).1, ?_⟩
    cases hclear : first.2.cleared between with
    | true =>
        have hne := (hnumbered.lost_ask hkept hclear).serial_ne b.1 b.2
        exact ⟨fun heq => absurd heq.symm hne, nofun⟩
    | false =>
        rw [(hnumbered.ask between).serial_get_eq_iff hsound' (mem_ask hkept hclear)]
        exact (and_iff_left rfl).symm

/-- Two callers miss at once and both compile; a third finds what the last of them kept. -/
theorem cache_transparent_race :
    let s := Shared.run {} [.look "a/+" .plain, .look "a/+" .plain, .keep 1, .keep 0,
      .look "a/+" .plain]
    s.calls.map (·.answer.serial) = [0, 1, 0] ∧ s.cache.size = 1 ∧
      ∀ call ∈ s.calls, call.answer.result = Pattern.compile call.template call.mode :=
  ⟨by decide +kernel, by decide +kernel, (cache_transparent.1 _).1⟩

end DeviceGateway.Topic.PatternCache
