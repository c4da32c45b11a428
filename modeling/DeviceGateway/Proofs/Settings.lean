import DeviceGateway.Proofs.Decimal
import DeviceGateway.Proofs.Text.Lossless
import DeviceGateway.Startup
/-!
The settings are exactly what the environment says. What is asked of each variable is a list in the
order in which they are read; settings are read if everything on it is met, and otherwise the first
variable that does not meet what is asked is the one that is named.
-/
namespace DeviceGateway

/-- A variable is set to the octets of a text. Other octets are no text, and count for nothing. -/
def Environment.Sets (env : Environment) (name s : String) : Prop :=
  env.values.lookup name = some (Bytes.ofString s)

variable {env : Environment} {name : String}

theorem Environment.text?_eq_some_iff {s : String} : env.text? name = some s ↔ env.Sets name s := by
  rw [text?, Sets, Option.bind_eq_some_iff]
  constructor
  · rintro ⟨octets, hlook, htext⟩
    rw [hlook, Bytes.toString?_eq_some_iff.mp htext]
  · intro h
    exact ⟨_, h, Bytes.toString?_eq_some_iff.mpr rfl⟩

theorem Environment.text?_eq_none_iff : env.text? name = none ↔ ∀ s, ¬ env.Sets name s := by
  simp only [Option.eq_none_iff_forall_not_mem, Option.mem_def, text?_eq_some_iff]

theorem Environment.Sets.unique {s s' : String} (h : env.Sets name s) (h' : env.Sets name s') :
    s = s' := by
  rw [← text?_eq_some_iff] at h h'
  exact Option.some.inj (h.symm.trans h')

namespace Settings

/-- A number in decimal digits, at least one, with a plus sign in front or none. -/
def Numeral (s : String) (n : Nat) : Prop :=
  ∃ digits : List Char, (s.toList = digits ∨ s.toList = '+' :: digits) ∧ digits ≠ [] ∧
    (∀ c ∈ digits, c.isDigit = true) ∧
    Nat.ofDigits 10 (digits.reverse.map fun c => c.toNat - '0'.toNat) = n

theorem natural?_eq_some_iff {s : String} {n : Nat} : natural? s = some n ↔ Numeral s n := by
  unfold natural?
  split
  · next digits hsign =>
    rw [Decimal.read?_eq_some_iff]
    constructor
    · exact fun h => ⟨digits, .inr hsign, h⟩
    · rintro ⟨digits', hdigits | hdigits, h⟩
      · -- The sign is no digit.
        have hplus := h.2.1 '+' (hdigits ▸ hsign ▸ List.mem_cons_self)
        exact absurd hplus (by decide)
      · rw [hsign] at hdigits
        exact (List.cons.inj hdigits).2 ▸ h
  · next hsign =>
    rw [Decimal.read?_eq_some_iff]
    constructor
    · exact fun h => ⟨s.toList, .inl rfl, h⟩
    · rintro ⟨digits, rfl | hdigits, h⟩
      · exact h
      · exact absurd hdigits (hsign digits)

theorem Numeral.unique {s : String} {m n : Nat} (hm : Numeral s m) (hn : Numeral s n) : m = n :=
  Option.some.inj ((natural?_eq_some_iff.mpr hm).symm.trans (natural?_eq_some_iff.mpr hn))

/-- What is asked of a variable: to be given and not empty, or, if it is given, to be a number that
its type can hold and that is not too great. -/
inductive Demand where
  | given
  | number (capacity greatest : Nat)

/-- The variables of which something is asked, in the order in which they are read. -/
def demands : List (String × Demand) :=
  [("TG_DATABASE_URL", .given), ("TG_MQTT_ROOT_PASSWORD", .given),
    ("TG_MQTT_PLUGIN_PASSWORD", .given), ("TG_MQTT_PORT", .number (2 ^ 16 - 1) (2 ^ 16 - 1)),
    ("TG_TOPICMAP_CACHE_TTL_SECONDS", .number (2 ^ 64 - 1) (2 ^ 64 - 1)),
    ("TG_FORWARD_READY_WAIT_SECONDS", .number (2 ^ 64 - 1) (2 ^ 64 - 1)),
    ("TG_FORWARD_CONFIRM_TIMEOUT_SECONDS", .number (2 ^ 64 - 1) (2 ^ 64 - 1)),
    ("TG_FORWARD_QOS", .number (2 ^ 8 - 1) 2)]

def Demand.Met (env : Environment) (name : String) : Demand → Prop
  | .given => ∃ s, env.Sets name s ∧ s ≠ ""
  | .number capacity greatest =>
    ∀ s, env.Sets name s → ∃ n, Numeral s n ∧ n ≤ capacity ∧ n ≤ greatest

/-- What is said of a variable that does not meet what is asked of it. -/
inductive Fault (env : Environment) (name : String) : Demand → SettingsError → Prop
  | missing (h : ∀ s, env.Sets name s → s = "") : Fault env name .given (.missing name)
  | illegible {capacity greatest : Nat} {s : String} (hs : env.Sets name s)
      (h : ∀ n, Numeral s n → capacity < n) :
      Fault env name (.number capacity greatest) (.invalid name s)
  | tooGreat {capacity greatest : Nat} {s : String} {n : Nat} (hs : env.Sets name s)
      (hn : Numeral s n) (hcapacity : n ≤ capacity) (h : greatest < n) :
      Fault env name (.number capacity greatest) (.invalid name (.ofList (Decimal.write n)))

theorem Fault.not_met {demand : Demand} {e : SettingsError} (h : Fault env name demand e) :
    ¬ demand.Met env name := by
  cases h with
  | missing h =>
      rintro ⟨s, hs, hne⟩
      exact hne (h s hs)
  | illegible hs h =>
      intro hmet
      obtain ⟨n, hn, hle, -⟩ := hmet _ hs
      exact absurd hle (Nat.not_le_of_lt (h n hn))
  | tooGreat hs hn hcapacity h =>
      intro hmet
      obtain ⟨m, hm, -, hle⟩ := hmet _ hs
      exact absurd hle (Nat.not_le_of_lt (hm.unique hn ▸ h))

/-- The first variable that does not meet what is asked of it is blamed. -/
inductive Blames (env : Environment) : List (String × Demand) → SettingsError → Prop
  | here {name : String} {demand : Demand} {rest : List (String × Demand)} {e : SettingsError}
      (h : Fault env name demand e) : Blames env ((name, demand) :: rest) e
  | later {name : String} {demand : Demand} {rest : List (String × Demand)} {e : SettingsError}
      (hmet : demand.Met env name) (h : Blames env rest e) : Blames env ((name, demand) :: rest) e

theorem Blames.not_met {asked : List (String × Demand)} {e : SettingsError}
    (h : Blames env asked e) : ∃ d ∈ asked, ¬ d.2.Met env d.1 := by
  induction h with
  | here h => exact ⟨_, List.mem_cons_self, h.not_met⟩
  | later _ _ ih =>
      obtain ⟨d, hd, hnot⟩ := ih
      exact ⟨d, List.mem_cons_of_mem _ hd, hnot⟩

/-- How several variables were read: everything asked of them is met and what was read is right, or
the first of them that is at fault is blamed. -/
inductive Decides {α : Type} (env : Environment) (asked : List (String × Demand)) (P : α → Prop) :
    Except SettingsError α → Prop
  | ok {a : α} (hmet : ∀ d ∈ asked, d.2.Met env d.1) (h : P a) : Decides env asked P (.ok a)
  | error {e : SettingsError} (h : Blames env asked e) : Decides env asked P (.error e)

theorem Decides.bind {α β : Type} {demand : Demand} {rest : List (String × Demand)}
    {P : α → Prop} {Q : β → Prop} {r : Except SettingsError α} {f : α → Except SettingsError β}
    (h : Decides env [(name, demand)] P r) (hf : ∀ a, P a → Decides env rest Q (f a)) :
    Decides env ((name, demand) :: rest) Q (r >>= f) := by
  cases h with
  | @ok a hmet ha =>
      have hfirst := hmet _ List.mem_cons_self
      have hafter := hf a ha
      change Decides env _ Q (f a)
      generalize f a = after at hafter
      cases hafter with
      | ok hrest hb => exact .ok (List.forall_mem_cons.mpr ⟨hfirst, hrest⟩) hb
      | error h => exact .error (.later hfirst h)
  | error h =>
      cases h with
      | here h => exact .error (.here h)
      | later _ h => nomatch h

/-- What a variable is set to, read, or the value of one that is not given. -/
def Takes {α : Type} (env : Environment) (name : String) (Read : String → α → Prop) (unset a : α) :
    Prop :=
  (∃ s, env.Sets name s ∧ Read s a) ∨ (∀ s, ¬ env.Sets name s) ∧ a = unset

theorem Takes.met {unset n capacity greatest : Nat} (h : Takes env name Numeral unset n)
    (hcapacity : n ≤ capacity) (hgreatest : n ≤ greatest) :
    (Demand.number capacity greatest).Met env name := by
  intro s hs
  rcases h with ⟨s', hs', hn⟩ | ⟨hnone, -⟩
  · exact ⟨n, hs.unique hs' ▸ hn, hcapacity, hgreatest⟩
  · exact absurd hs (hnone s)

theorem takes_text (env : Environment) (name unset : String) :
    Takes env name Eq unset ((env.text? name).getD unset) := by
  cases htext : env.text? name with
  | some s => exact .inl ⟨s, Environment.text?_eq_some_iff.mp htext, rfl⟩
  | none => exact .inr ⟨Environment.text?_eq_none_iff.mp htext, rfl⟩

theorem required_decides (env : Environment) (name : String) :
    Decides env [(name, .given)] (fun s => env.Sets name s ∧ s ≠ "") (required env name) := by
  unfold required
  split
  · next s htext =>
    have hs : env.Sets name s := Environment.text?_eq_some_iff.mp htext
    split
    · next hempty =>
      exact .error (.here (.missing fun s' hs' =>
        hs.unique hs' ▸ String.isEmpty_iff.mp hempty))
    · next hne =>
      have hne : s ≠ "" := fun heq => hne (String.isEmpty_iff.mpr heq)
      exact .ok (List.forall_mem_singleton.mpr ⟨s, hs, hne⟩) ⟨hs, hne⟩
  · next htext =>
    exact .error (.here (.missing fun s hs => absurd hs (Environment.text?_eq_none_iff.mp htext s)))

theorem number_decides (env : Environment) (name : String) (greatest unset : Nat) :
    Decides env [(name, .number greatest greatest)] (Takes env name Numeral unset)
      (number env name greatest unset) := by
  unfold number
  split
  · next htext =>
    have hnone := Environment.text?_eq_none_iff.mp htext
    exact .ok (List.forall_mem_singleton.mpr fun s hs => absurd hs (hnone s)) (.inr ⟨hnone, rfl⟩)
  · next s htext =>
    have hs : env.Sets name s := Environment.text?_eq_some_iff.mp htext
    split
    · next n hread =>
      have hn := natural?_eq_some_iff.mp hread
      split
      · next hle =>
        have htakes : Takes env name Numeral unset n := .inl ⟨s, hs, hn⟩
        exact .ok (List.forall_mem_singleton.mpr (htakes.met hle hle)) htakes
      · next hgt =>
        exact .error (.here (.illegible hs fun m hm => hm.unique hn ▸ Nat.lt_of_not_le hgt))
    · next hread =>
      refine .error (.here (.illegible hs fun n hn => ?_))
      rw [← natural?_eq_some_iff, hread] at hn
      cases hn

theorem quality_decides (env : Environment) (name : String) {unset : Nat} (h : unset ≤ 2) :
    Decides env [(name, .number (2 ^ 8 - 1) 2)] (Takes env name Numeral unset)
      (quality env name unset) := by
  have hnumber := number_decides env name (2 ^ 8 - 1) unset
  change Decides _ _ _ (number env name (2 ^ 8 - 1) unset >>= _)
  generalize number env name (2 ^ 8 - 1) unset = read at hnumber
  cases hnumber with
  | @ok n hmet hn =>
      change Decides _ _ _ (if n ≤ 2 then _ else _)
      split
      · next hle =>
        exact .ok (List.forall_mem_singleton.mpr (hn.met (Nat.le_trans hle (by decide)) hle)) hn
      · next hgt =>
        rcases hn with ⟨s, hs, hn⟩ | ⟨-, rfl⟩
        · obtain ⟨m, hm, hcapacity, -⟩ := hmet _ List.mem_cons_self s hs
          exact .error (.here (.tooGreat hs hn (hm.unique hn ▸ hcapacity) (Nat.lt_of_not_le hgt)))
        · exact absurd h hgt
  | error hblames =>
      cases hblames with
      | here hfault =>
          cases hfault with
          | illegible hs hlarge => exact .error (.here (.illegible hs hlarge))
          | tooGreat _ _ hcapacity hgreater => exact absurd hcapacity (Nat.not_le_of_lt hgreater)
      | later _ hrest => nomatch hrest

/-- Each setting is what its variable says, or its own value where it may be left out. -/
structure ReadFrom (env : Environment) (s : Settings) : Prop where
  httpAddress : Takes env "TG_HTTP_ADDR" Eq "127.0.0.1:8090" s.httpAddress
  databaseUrl : env.Sets "TG_DATABASE_URL" s.databaseUrl
  redisUrl : Takes env "TG_REDIS_URL" Eq "redis://127.0.0.1:6379" s.redisUrl
  rootPassword : env.Sets "TG_MQTT_ROOT_PASSWORD" s.rootPassword
  pluginPassword : env.Sets "TG_MQTT_PLUGIN_PASSWORD" s.pluginPassword
  mqttHost : Takes env "TG_MQTT_HOST" Eq "127.0.0.1" s.mqttHost
  mqttPort : Takes env "TG_MQTT_PORT" Numeral 1883 s.mqttPort
  snapshotLifetime : Takes env "TG_TOPICMAP_CACHE_TTL_SECONDS" Numeral 86400 s.snapshotLifetime
  readyWait : Takes env "TG_FORWARD_READY_WAIT_SECONDS" Numeral 10 s.readyWait
  confirmTimeout : Takes env "TG_FORWARD_CONFIRM_TIMEOUT_SECONDS" Numeral 5 s.confirmTimeout
  qos : Takes env "TG_FORWARD_QOS" Numeral 1 s.qos

theorem ofEnvironment_decides (env : Environment) :
    Decides env demands (fun s => ReadFrom env s ∧ s.rootPassword ≠ "" ∧ s.pluginPassword ≠ "")
      (ofEnvironment env) := by
  unfold ofEnvironment demands
  refine (required_decides env _).bind fun databaseUrl hdatabase => ?_
  refine (required_decides env _).bind fun rootPassword hroot => ?_
  refine (required_decides env _).bind fun pluginPassword hplugin => ?_
  refine (number_decides env _ _ _).bind fun mqttPort hport => ?_
  refine (number_decides env _ _ _).bind fun snapshotLifetime hlifetime => ?_
  refine (number_decides env _ _ _).bind fun readyWait hready => ?_
  refine (number_decides env _ _ _).bind fun confirmTimeout hconfirm => ?_
  refine (quality_decides env _ (by decide)).bind fun qos hqos => ?_
  refine .ok nofun ⟨?_, hroot.2, hplugin.2⟩
  exact ⟨takes_text .., hdatabase.1, takes_text .., hroot.1, hplugin.1, takes_text .., hport,
    hlifetime, hready, hconfirm, hqos⟩

theorem load_fresh {c : Context} (hroot : c.credentials.root ≠ "")
    (hplugin : c.credentials.plugin ≠ "") :
    (({} : Plugin).load c).1 = .ok ⟨c.hooks, ⟨c.credentials, c.snapshotLifetime⟩⟩ := by
  change c.pipeline? = _
  rw [Context.pipeline?, if_neg]
  rw [Bool.or_eq_true, String.isEmpty_iff, String.isEmpty_iff]
  exact not_or_intro hroot hplugin

/-- Settings are read if and only if everything asked of the variables is met. Then each setting is
what the environment says, and a gateway with those passwords loads; otherwise the first variable
that does not meet what is asked of it is blamed. -/
theorem ofEnvironment_exact (env : Environment) :
    ((∃ s, ofEnvironment env = .ok s) ↔ ∀ d ∈ demands, d.2.Met env d.1) ∧
      (∀ s, ofEnvironment env = .ok s → ReadFrom env s ∧
        ∀ c : Context, c.credentials = ⟨s.rootPassword, s.pluginPassword⟩ →
          (({} : Plugin).load c).1 = .ok ⟨c.hooks, ⟨c.credentials, c.snapshotLifetime⟩⟩) ∧
      ∀ e, ofEnvironment env = .error e → Blames env demands e := by
  have hdecides := ofEnvironment_decides env
  generalize ofEnvironment env = read at hdecides
  cases hdecides with
  | @ok s hmet hs =>
      refine ⟨⟨fun _ => hmet, fun _ => ⟨s, rfl⟩⟩, ?_, nofun⟩
      rintro _ ⟨⟩
      exact ⟨hs.1, fun c hc => load_fresh (hc ▸ hs.2.1) (hc ▸ hs.2.2)⟩
  | @error e hblames =>
      refine ⟨⟨nofun, fun hmet => ?_⟩, nofun, ?_⟩
      · obtain ⟨d, hd, hnot⟩ := hblames.not_met
        exact absurd (hmet d hd) hnot
      · rintro _ ⟨⟩
        exact hblames

/-- A sign and leading zeros are no harm to a number, and what is no text is as good as not set. -/
theorem ofEnvironment_exact_padded :
    let env : Environment := ⟨[("TG_DATABASE_URL", .ofString "d"),
      ("TG_MQTT_ROOT_PASSWORD", .ofString "r"), ("TG_MQTT_PLUGIN_PASSWORD", .ofString "p"),
      ("TG_MQTT_PORT", .ofString "+0080"), ("TG_FORWARD_QOS", [0xFF])]⟩
    ∃ s, ofEnvironment env = .ok s ∧ s.mqttPort = 80 ∧ s.qos = 1 ∧ ReadFrom env s :=
  ⟨_, rfl, rfl, rfl, ((ofEnvironment_exact _).2.1 _ rfl).1⟩

end Settings

end DeviceGateway
