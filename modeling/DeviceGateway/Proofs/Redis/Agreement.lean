import DeviceGateway.Proofs.Store.Frame
import DeviceGateway.Proofs.Store.Request
import DeviceGateway.Redis.Client
/-!
A Redis server in place of the store in memory. Where both hold the same they reply the same to any
call and hold the same afterwards, so nobody can tell them apart, as long as items are only pushed
to lists and times to live can be told the end of.
-/
namespace DeviceGateway.Redis

open KeyValue (Content Entry Request)

/-- The call to a server that a request becomes. -/
def callFor : (r : Request) → Call r.Reply
  | .get key => get key
  | .set key value ttl => set key value ttl
  | .delete keys => delete keys
  | .push key value maxItems ttl => push key value maxItems ttl
  | .list key => list key
  | .ttl key => ttl key

def serve (server : Option Database) (r : Request) : Option r.Reply × Option Database :=
  (callFor r).perform server

def serveInMemory (b : Backend) (r : Request) : Option r.Reply × Backend :=
  ((b.serve r).1.toOption, (b.serve r).2)

/-- A time to live that either store can tell the end of. -/
def Tellable (seconds : Nat) : Prop := seconds ≤ maxSeconds ∧ seconds ≤ KeyValue.maxLifetime

/-- What may be asked of both: no item is pushed where there is a string, a list may hold one item
at least and as many as signed words can count, and times to live can be told the end of. -/
def Fair (kv : KeyValue) : Request → Prop
  | .set _ _ ttl => ∀ seconds ∈ ttl, Tellable seconds
  | .push key _ maxItems ttl =>
    kv.items? key ≠ none ∧ (1 ≤ maxItems ∧ maxItems ≤ 0x7FFFFFFFFFFFFFFF) ∧
      ∀ seconds ∈ ttl, Tellable seconds
  | .get _ | .delete _ | .list _ | .ttl _ => True

instance : DecidablePred Tellable := fun _ => inferInstanceAs (Decidable (_ ∧ _))

instance (kv : KeyValue) : DecidablePred (Fair kv)
  | .set _ _ ttl => inferInstanceAs (Decidable (∀ seconds ∈ ttl, Tellable seconds))
  | .push _ _ _ _ => inferInstanceAs (Decidable (_ ∧ _ ∧ _))
  | .get _ | .delete _ | .list _ | .ttl _ => .isTrue trivial

/-- Requests that are fair when their turn comes. -/
def AllFair : Backend → List Request → Prop
  | _, [] => True
  | b, r :: rest => Fair b.keyValue r ∧ AllFair (b.serve r).2 rest

instance decidableAllFair : (b : Backend) → (history : List Request) → Decidable (AllFair b history)
  | _, [] => .isTrue trivial
  | b, r :: rest =>
    have := decidableAllFair (b.serve r).2 rest
    inferInstanceAs (Decidable (Fair b.keyValue r ∧ AllFair (b.serve r).2 rest))

/-- A database that holds what the store in memory holds. -/
def Mirrors (kv : KeyValue) (db : Database) : Prop := ∀ key, db key = kv.find? key

theorem mirrors_empty : Mirrors {} Database.empty := fun _ => rfl

variable {kv : KeyValue} {db : Database}

theorem Mirrors.put (h : Mirrors kv db) (key : String) (entry : KeyValue.Entry) :
    Mirrors (kv.put key entry) (db.put key (some entry)) := by
  intro other
  rw [KeyValue.find?_put, Database.put, h other]

theorem Mirrors.erase (h : Mirrors kv db) (key : String) :
    Mirrors (kv.erase key) (db.put key none) := by
  intro other
  rw [KeyValue.find?_erase, Database.put, h other]

theorem Mirrors.delete (h : Mirrors kv db) (keys : List String) :
    Mirrors (kv.delete keys) (keys.foldl (fun db k => db.put k none) db) := by
  induction keys generalizing kv db with
  | nil => exact h
  | cons key rest ih => exact ih (h.erase key)

theorem Database.put_self (db : Database) (key : String) (entry : Option Entry) :
    db.put key entry key = entry :=
  if_pos rfl

theorem Database.put_put (db : Database) (key : String) (entry entry' : Option Entry) :
    (db.put key entry).put key entry' = db.put key entry' := by
  funext other
  simp only [Database.put]
  split <;> rfl

theorem slice_all (items : List String) : slice items 0 (-1) = items := by
  have hsize : (-1 + (items.length : Int) - 0 + 1).toNat = items.length := by omega
  change (if -1 + (items.length : Int) < 0 then [] else
    items.take (-1 + (items.length : Int) - 0 + 1).toNat) = items
  split
  · next hlast => exact (List.eq_nil_of_length_eq_zero (by omega)).symm
  · rw [hsize, List.take_length]

theorem slice_cons (item : String) (items : List String) (n : Nat) :
    slice (item :: items) 0 n = (item :: items).take (n + 1) := by
  unfold slice
  have hlast : ¬ (n : Int) < 0 := by omega
  simp [hlast]

/-- The last place that is kept, while signed words can count the items. -/
theorem lastPlace_eq {n : Nat} (h : n + 1 ≤ 0x7FFFFFFFFFFFFFFF) : lastPlace (n + 1) = n := by
  have hmax : max (n + 1) 1 = n + 1 := Nat.max_eq_left (Nat.succ_pos n)
  have hone : (Int64.ofNat (n + 1) - 1).toInt = (n : Int) := by
    rw [Int64.toInt_sub, Int64.toInt_ofNat_of_lt (by omega)]
    simp only [Int64.toInt_one]
    rw [Int.bmod_eq_of_le] <;> omega
  rw [lastPlace, hmax, hone]

theorem perform_eq {α : Type} {c : Call α} (replies : List Reply)
    (hsends : c.commands.isEmpty = false) {after : Database}
    (h : runAll c.commands db = (replies, after)) :
    c.perform (some db) = (c.answer? replies, some after) := by
  simp only [Call.perform, hsends, h, Bool.false_eq_true, if_false]

section

variable {key : String}

/-- An item is put in front of the list that there is, or of none. -/
theorem pushFront_run (h : Mirrors kv db)
    (hlist : kv.items? key ≠ none) (value : String) :
    ∃ (n : Int) (items : List String), kv.items? key = some items ∧
      (Command.pushFront key value).run db = (.number n,
        db.put key (some ⟨.list (value :: items), (kv.find? key).bind Entry.ttl⟩)) := by
  have hkey := h key
  unfold KeyValue.items? at hlist ⊢
  unfold Command.run
  cases hfind : kv.find? key with
  | none =>
      rw [hfind] at hkey
      simp only [hkey]
      exact ⟨1, [], rfl, rfl⟩
  | some entry =>
      obtain ⟨content, left⟩ := entry
      rw [hfind] at hkey hlist
      cases content with
      | text value => exact absurd rfl hlist
      | list items =>
          simp only [hkey]
          exact ⟨_, items, rfl, rfl⟩

theorem trim_run (key : String) (db : Database) (item : String) (items : List String)
    (left : Option Nat) (n : Nat) :
    (Command.trim key 0 n).run (db.put key (some ⟨.list (item :: items), left⟩)) =
      (.done, db.put key (some ⟨.list ((item :: items).take (n + 1)), left⟩)) := by
  simp only [Command.run, Database.put_self, slice_cons, Database.putItems, Database.put_put]
  rfl

theorem expire_run (key : String) (db : Database) (content : Content) (left : Option Nat)
    {seconds : Nat} (h : seconds + 1 ≤ maxSeconds) :
    (Command.expire key (seconds + 1)).run (db.put key (some ⟨content, left⟩)) =
      (.number 1, db.put key (some ⟨content, some (seconds + 1)⟩)) := by
  simp only [Command.run, if_neg (Nat.not_lt.mpr h), Database.put_self, Database.put_put]
  rfl

/-- A time to live that can be told the end of is kept, unless it is zero. -/
theorem lifetime?_of_tellable {seconds : Nat} (h : Tellable (seconds + 1)) :
    KeyValue.lifetime? (seconds + 1) = some (seconds + 1) := by
  unfold KeyValue.lifetime?
  rw [if_neg]
  rintro (hzero | hlong)
  · cases hzero
  · exact absurd h.2 (Nat.not_le.mpr hlong)

/-- A push succeeds on both sides and leaves the same list with the same time to live. -/
theorem push_agrees (h : Mirrors kv db) (value : String) (maxItems : Nat) (ttl : Option Nat)
    (hfair : Fair kv (.push key value maxItems ttl)) :
    ∃ kv' db', kv.push? key value maxItems ttl = some kv' ∧
      (push key value maxItems ttl).perform (some db) = (some (), some db') ∧ Mirrors kv' db' := by
  obtain ⟨hlist, ⟨hmin, hmax⟩, htell⟩ := hfair
  obtain ⟨n, rfl⟩ : ∃ n, maxItems = n + 1 := ⟨maxItems - 1, by omega⟩
  obtain ⟨size, items, hitems, hpush⟩ := pushFront_run h hlist value
  unfold KeyValue.push?
  rw [hitems]
  refine ⟨_, _, rfl, ?_, h.put key _⟩
  have hlast : lastPlace (n + 1) = n := lastPlace_eq hmax
  have hmost : max (n + 1) 1 = n + 1 := Nat.max_eq_left hmin
  have htrim := trim_run key db value items ((kv.find? key).bind Entry.ttl) n
  rw [hmost]
  -- Without a time to live, and with one of zero, the commands end here.
  have hkept : runAll [.pushFront key value, .trim key 0 (lastPlace (n + 1))] db =
      ([.number size, .done], db.put key
        (some ⟨.list ((value :: items).take (n + 1)), (kv.find? key).bind Entry.ttl⟩)) := by
    simp only [runAll, hpush, hlast, htrim]
  cases ttl with
  | none => exact perform_eq (c := push key value (n + 1) none) _ rfl hkept
  | some seconds =>
      cases seconds with
      | zero => exact perform_eq (c := push key value (n + 1) (some 0)) _ rfl hkept
      | succ seconds =>
          have htold := htell (seconds + 1) rfl
          have hexpire := expire_run key db (.list ((value :: items).take (n + 1)))
            ((kv.find? key).bind Entry.ttl) htold.1
          have hset : runAll [.pushFront key value, .trim key 0 (lastPlace (n + 1)),
              .expire key (seconds + 1)] db = ([.number size, .done, .number 1], db.put key
                (some ⟨.list ((value :: items).take (n + 1)), some (seconds + 1)⟩)) := by
            simp only [runAll, hpush, hlast, htrim, hexpire]
          simp only [lifetime?_of_tellable htold]
          exact perform_eq (c := push key value (n + 1) (some (seconds + 1))) _ rfl hset

theorem set_agrees (h : Mirrors kv db) (value : String) (ttl : Option Nat)
    (hfair : Fair kv (.set key value ttl)) :
    ∃ db', (set key value ttl).perform (some db) = (some (), some db') ∧
      Mirrors (kv.set key value ttl) db' := by
  refine ⟨_, ?_, h.put key _⟩
  cases ttl with
  | none => exact perform_eq (c := set key value none) _ rfl rfl
  | some seconds =>
      cases seconds with
      | zero => exact perform_eq (c := set key value (some 0)) _ rfl rfl
      | succ seconds =>
          have htold := hfair (seconds + 1) rfl
          have hrun : (Command.setFor key (seconds + 1) value).run db =
              (.done, db.put key (some ⟨.text value, some (seconds + 1)⟩)) := by
            have hexpiry : ¬ (seconds + 1 = 0 ∨ maxSeconds < seconds + 1) := by
              rintro (hzero | hlong)
              · cases hzero
              · exact absurd htold.1 (Nat.not_le.mpr hlong)
            rw [Command.run, if_neg hexpiry]
          rw [Option.bind_some, lifetime?_of_tellable htold]
          refine perform_eq (c := set key value (some (seconds + 1))) [.done] rfl ?_
          simp only [set, runAll, hrun]

theorem delete_agrees (h : Mirrors kv db) (keys : List String) :
    ∃ db', (delete keys).perform (some db) = (some (), some db') ∧
      Mirrors (kv.delete keys) db' := by
  refine ⟨_, ?_, h.delete keys⟩
  cases keys with
  | nil => rfl
  | cons key rest => exact perform_eq (c := delete (key :: rest)) _ rfl rfl

theorem get_agrees (h : Mirrors kv db) (key : String) :
    (get key).perform (some db) = (kv.text? key, some db) := by
  have hkey := h key
  unfold KeyValue.text?
  cases hfind : kv.find? key with
  | none =>
      rw [hfind] at hkey
      refine perform_eq (c := get key) [.missing] rfl ?_
      simp only [get, runAll, Command.run, hkey]
  | some entry =>
      obtain ⟨content, left⟩ := entry
      rw [hfind] at hkey
      cases content with
      | text value =>
          refine perform_eq (c := get key) [.text value] rfl ?_
          simp only [get, runAll, Command.run, hkey]
      | list items =>
          refine perform_eq (c := get key) [wrongType] rfl ?_
          simp only [get, runAll, Command.run, hkey]

theorem list_agrees (h : Mirrors kv db) (key : String) :
    (list key).perform (some db) = (kv.items? key, some db) := by
  have hkey := h key
  unfold KeyValue.items?
  cases hfind : kv.find? key with
  | none =>
      rw [hfind] at hkey
      refine perform_eq (c := list key) [.items []] rfl ?_
      simp only [list, runAll, Command.run, hkey]
  | some entry =>
      obtain ⟨content, left⟩ := entry
      rw [hfind] at hkey
      cases content with
      | text value =>
          refine perform_eq (c := list key) [wrongType] rfl ?_
          simp only [list, runAll, Command.run, hkey]
      | list items =>
          refine perform_eq (c := list key) [.items items] rfl ?_
          simp only [list, runAll, Command.run, hkey, slice_all]

theorem ttl_agrees (h : Mirrors kv db) (key : String) :
    (ttl key).perform (some db) = (some (kv.ttl? key), some db) := by
  have hkey := h key
  unfold KeyValue.ttl?
  cases hfind : kv.find? key with
  | none =>
      rw [hfind] at hkey
      refine perform_eq (c := ttl key) [.number (-2)] rfl ?_
      simp only [ttl, runAll, Command.run, hkey]
  | some entry =>
      obtain ⟨content, left⟩ := entry
      rw [hfind] at hkey
      cases left with
      | none =>
          refine perform_eq (c := ttl key) [.number (-1)] rfl ?_
          simp only [ttl, runAll, Command.run, hkey]
      | some seconds =>
          refine perform_eq (c := ttl key) [.number seconds] rfl ?_
          simp only [ttl, runAll, Command.run, hkey]

end

/-- What is replied in memory, unless calls fail. -/
theorem toOption_attempt {α : Type} {b : Backend} (hw : b.KeyValueWorks) (op : KeyValue.Op)
    (keys : List String) (answer : Option α) : (b.attempt op keys answer).toOption = answer := by
  unfold Backend.attempt
  rw [hw op keys]
  cases answer <;> rfl

/-- Stores that hold the same reply the same to a fair request, and hold the same afterwards. -/
theorem serve_agrees {b : Backend} (hw : b.KeyValueWorks) (h : Mirrors b.keyValue db) {r : Request}
    (hfair : Fair b.keyValue r) :
    ∃ after, serve (some db) r = ((b.serve r).1.toOption, some after) ∧
      Mirrors (b.serve r).2.keyValue after ∧ (b.serve r).2.KeyValueWorks := by
  cases r with
  | get key =>
      refine ⟨db, ?_, h, hw⟩
      exact (get_agrees h key).trans (congrArg (·, some db) (toOption_attempt hw _ _ _).symm)
  | list key =>
      refine ⟨db, ?_, h, hw⟩
      exact (list_agrees h key).trans (congrArg (·, some db) (toOption_attempt hw _ _ _).symm)
  | ttl key =>
      refine ⟨db, ?_, h, hw⟩
      exact (ttl_agrees h key).trans (congrArg (·, some db) (toOption_attempt hw _ _ _).symm)
  | set key value ttl =>
      obtain ⟨after, hperform, hafter⟩ := set_agrees h value ttl hfair
      have hset : b.set key value ttl = .ok _ := Backend.attempt_eq_answer (hw _ _)
      simp only [Backend.serve, hset]
      exact ⟨after, hperform, hafter, hw.congr rfl⟩
  | delete keys =>
      obtain ⟨after, hperform, hafter⟩ := delete_agrees h keys
      have hdelete : b.delete keys = .ok _ := Backend.attempt_eq_answer (hw _ _)
      simp only [Backend.serve, hdelete]
      exact ⟨after, hperform, hafter, hw.congr rfl⟩
  | push key value maxItems ttl =>
      obtain ⟨kv, after, hpush, hperform, hafter⟩ := push_agrees h value maxItems ttl hfair
      have hpushed : b.push key value maxItems ttl =
          .ok (b.wrote (.push key value maxItems ttl) kv) := by
        unfold Backend.push
        rw [hpush]
        exact Backend.attempt_eq_answer (hw _ _)
      simp only [Backend.serve, hpushed]
      exact ⟨after, hperform, hafter, hw.congr rfl⟩

/-- A server and the store in memory that hold the same give the same replies to any requests, as
long as each is fair in its turn: the same strings, the same items in the same order, the same times
to live, and failures to the same requests. In the end they hold the same. -/
theorem answers_agree {b : Backend} (hw : b.KeyValueWorks) (h : Mirrors b.keyValue db)
    (history : List Request) (hfair : AllFair b history) :
    (Request.answers serve (some db) history).1 = (Request.answers serveInMemory b history).1 ∧
      ∃ after, (Request.answers serve (some db) history).2 = some after ∧
        Mirrors (Request.answers serveInMemory b history).2.keyValue after := by
  induction history generalizing b db with
  | nil => exact ⟨rfl, db, rfl, h⟩
  | cons r rest ih =>
      obtain ⟨hr, hrest⟩ := hfair
      obtain ⟨after, hserve, hafter, hworks⟩ := serve_agrees hw h hr
      obtain ⟨hreplies, last, hlast, hmirrors⟩ := ih hworks hafter hrest
      simp only [Request.answers, hserve]
      exact ⟨congrArg (List.cons _) hreplies, last, hlast, hmirrors⟩

/-- A list with a time to live, which a push with a time of zero keeps; the list gives way to a
string without one, and two of the requests are for the wrong type. -/
def dayOfRequests : List Request :=
  [.push "k" "x" 2 (some 60), .push "k" "y" 2 (some 0), .push "k" "z" 2 none, .list "k", .ttl "k",
    .get "k", .set "k" "v" none, .ttl "k", .list "k", .delete [], .delete ["k", "m"], .get "k"]

theorem answers_agree_day :
    Backend.KeyValueWorks {} ∧ Mirrors ({} : Backend).keyValue Database.empty ∧
      AllFair {} dayOfRequests ∧
      (Request.answers serve (some Database.empty) dayOfRequests).1 =
        (Request.answers serveInMemory {} dayOfRequests).1 ∧
      (Request.answers serveInMemory {} dayOfRequests).1 =
        [⟨.push "k" "x" 2 (some 60), some ()⟩, ⟨.push "k" "y" 2 (some 0), some ()⟩,
          ⟨.push "k" "z" 2 none, some ()⟩, ⟨.list "k", some ["z", "y"]⟩, ⟨.ttl "k", some (some 60)⟩,
          ⟨.get "k", none⟩, ⟨.set "k" "v" none, some ()⟩, ⟨.ttl "k", some none⟩, ⟨.list "k", none⟩,
          ⟨.delete [], some ()⟩, ⟨.delete ["k", "m"], some ()⟩, ⟨.get "k", some none⟩] := by
  have hw : Backend.KeyValueWorks {} := .of_faults rfl rfl
  have hfair : AllFair {} dayOfRequests := by decide
  exact ⟨hw, mirrors_empty, hfair, (answers_agree hw mirrors_empty dayOfRequests hfair).1, rfl⟩

end DeviceGateway.Redis
