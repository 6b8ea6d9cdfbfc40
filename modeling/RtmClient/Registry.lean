import RtmClient.Basic
import Mathlib.Data.String.Basic

/-!
# The subscription registry

`secure_client::_subscriptions` is a `std::map<std::string, subscription_impl>`.  It is
modelled by its entries in iteration order, which for a `std::map` is strictly increasing
key order; the structure carries that order, so keys are unique by construction.  The
operations are the ones the session performs: `emplace` (which keeps an existing entry),
the three linear searches of `process_input` and `unsubscribe`, an in-place update of the
entry found, `erase` of it, and `clear`.
-/

namespace RtmClient

/-- `subscription_status`. -/
inductive SubscriptionStatus where
  | pendingSubscribe
  | current
  | pendingUnsubscribe
  deriving DecidableEq, Repr

/-- `subscription_impl`: one record of the registry. -/
structure SubscriptionImpl where
  channel : String
  sub : Handle
  callbacks : Callbacks
  status : SubscriptionStatus
  pendingRequestId : UInt64 := UINT64_MAX
  deriving DecidableEq, Repr

/-- `std::less<std::string>` on the keys: the characters compared in order.  This decides
`String`'s `<` by recursion on the characters, so that it evaluates. -/
instance (priority := high) keyDecidableLT (a b : String) : Decidable (a < b) :=
  decidable_of_iff (a.data < b.data) String.lt_iff_toList_lt.symm

/-- An entry of the map: the channel key and its record. -/
abbrev Entry := String × SubscriptionImpl

/-- `std::map<std::string, subscription_impl>`, in iteration order. -/
structure Registry where
  entries : List Entry
  sorted : entries.Pairwise (fun a b => a.1 < b.1)

namespace Registry

theorem ext_entries {a b : Registry} (h : a.entries = b.entries) : a = b := by
  cases a; cases b; cases h; rfl

instance : DecidableEq Registry := fun a b =>
  decidable_of_iff (a.entries = b.entries) ⟨ext_entries, fun h => h ▸ rfl⟩

/-- The empty map. -/
def empty : Registry := ⟨[], List.Pairwise.nil⟩

/-- The keys of the map. -/
def keys (r : Registry) : List String := r.entries.map Prod.fst

/-- Insert `(k, v)` at its place in key order, unless `k` is already a key. -/
def emplaceEntries (k : String) (v : SubscriptionImpl) : List Entry -> List Entry
  | [] => [(k, v)]
  | e :: rest =>
      if k < e.1 then (k, v) :: e :: rest
      else if k = e.1 then e :: rest
      else e :: emplaceEntries k v rest

theorem mem_emplaceEntries {k : String} {v : SubscriptionImpl} {e : Entry} :
    forall {l : List Entry}, l.Pairwise (fun a b => a.1 < b.1) ->
      (e ∈ emplaceEntries k v l ↔ e ∈ l ∨ (e = (k, v) ∧ k ∉ l.map Prod.fst))
  | [], _ => by simp [emplaceEntries]
  | x :: rest, hl => by
      have hrest := List.pairwise_cons.mp hl
      unfold emplaceEntries
      by_cases hlt : k < x.1
      · have hnot : k ∉ (x :: rest).map Prod.fst := by
          simp only [List.map_cons, List.mem_cons, List.mem_map, not_or, not_exists, not_and]
          exact ⟨ne_of_lt hlt, fun y hy hyk => lt_asymm (hyk ▸ hrest.1 y hy) hlt⟩
        rw [if_pos hlt, List.mem_cons]
        exact ⟨fun h => h.elim (fun h => .inr ⟨h, hnot⟩) .inl, fun h => h.elim .inr (.inl ·.1)⟩
      · rw [if_neg hlt]
        by_cases heq : k = x.1
        · rw [if_pos heq]
          exact ⟨.inl, fun h => h.elim id fun h =>
            absurd (List.mem_map_of_mem Prod.fst (List.mem_cons_self x rest)) (heq ▸ h.2)⟩
        · rw [if_neg heq, List.mem_cons, mem_emplaceEntries hrest.2, List.mem_cons, List.map_cons,
            List.mem_cons, not_or]
          constructor
          · rintro (h | h | ⟨h1, h2⟩)
            exacts [.inl (.inl h), .inl (.inr h), .inr ⟨h1, heq, h2⟩]
          · rintro ((h | h) | ⟨h1, -, h2⟩)
            exacts [.inl h, .inr (.inl h), .inr (.inr ⟨h1, h2⟩)]

theorem pairwise_emplaceEntries {k : String} {v : SubscriptionImpl} :
    forall {l : List Entry}, l.Pairwise (fun a b => a.1 < b.1) ->
      (emplaceEntries k v l).Pairwise (fun a b => a.1 < b.1)
  | [], _ => List.pairwise_singleton _ _
  | x :: rest, hl => by
      have hrest := List.pairwise_cons.mp hl
      unfold emplaceEntries
      by_cases hlt : k < x.1
      · rw [if_pos hlt]
        refine List.Pairwise.cons (fun y hy => ?_) hl
        rcases List.mem_cons.mp hy with rfl | hy
        · exact hlt
        · exact lt_trans hlt (hrest.1 y hy)
      · rw [if_neg hlt]
        by_cases heq : k = x.1
        · rw [if_pos heq]; exact hl
        · rw [if_neg heq]
          have hgt : x.1 < k := lt_of_le_of_ne (not_lt.mp hlt) (Ne.symm heq)
          refine List.Pairwise.cons (fun y hy => ?_) (pairwise_emplaceEntries hrest.2)
          rcases (mem_emplaceEntries hrest.2).mp hy with hy | ⟨rfl, -⟩
          · exact hrest.1 y hy
          · exact hgt

/-- `_subscriptions.emplace(std::make_pair(k, v))`. -/
def emplace (r : Registry) (k : String) (v : SubscriptionImpl) : Registry :=
  ⟨emplaceEntries k v r.entries, pairwise_emplaceEntries r.sorted⟩

/-- `_subscriptions.find(k)`. -/
def find (r : Registry) (k : String) : Option SubscriptionImpl :=
  (r.entries.find? (fun e => e.1 = k)).map Prod.snd

/-- The loop of the four response actions: the first entry whose pending request id is
`id`. -/
def findPending (r : Registry) (id : UInt64) : Option Entry :=
  r.entries.find? (fun e => e.2.pendingRequestId = id)

/-- The loop of `unsubscribe`: the first entry whose record belongs to `sub`. -/
def findSub (r : Registry) (sub : Handle) : Option Entry :=
  r.entries.find? (fun e => e.2.sub = sub)

/-- Assign to fields of the record under key `k`, through the reference the loop found. -/
def modify (r : Registry) (k : String) (f : SubscriptionImpl -> SubscriptionImpl) :
    Registry :=
  ⟨r.entries.map (fun e => if e.1 = k then (e.1, f e.2) else e), by
    refine List.pairwise_map.mpr (r.sorted.imp fun {a b} h => ?_)
    split <;> split <;> exact h⟩

/-- `_subscriptions.erase(it)` for the iterator `it` at key `k`. -/
def erase (r : Registry) (k : String) : Registry :=
  ⟨r.entries.filter (fun e => e.1 ≠ k), r.sorted.filter _⟩

@[simp] theorem empty_entries : empty.entries = [] := rfl

theorem mem_emplace {r : Registry} {k : String} {v : SubscriptionImpl} {e : Entry} :
    e ∈ (r.emplace k v).entries ↔ e ∈ r.entries ∨ (e = (k, v) ∧ k ∉ r.keys) :=
  mem_emplaceEntries r.sorted

theorem mem_modify {r : Registry} {k : String} {f : SubscriptionImpl -> SubscriptionImpl}
    {e : Entry} :
    e ∈ (r.modify k f).entries ↔
      (exists v, (k, v) ∈ r.entries ∧ e = (k, f v)) ∨ (e ∈ r.entries ∧ e.1 ≠ k) := by
  simp only [modify, List.mem_map]
  constructor
  · rintro ⟨x, hx, rfl⟩
    by_cases hxk : x.1 = k
    · exact .inl ⟨x.2, by simpa [← hxk] using hx, by simp [hxk]⟩
    · exact .inr ⟨by simpa [hxk] using hx, by simp [hxk]⟩
  · rintro (⟨v, hv, rfl⟩ | ⟨he, hek⟩)
    · exact ⟨(k, v), hv, by simp⟩
    · exact ⟨e, he, by simp [hek]⟩

@[simp] theorem mem_erase {r : Registry} {k : String} {e : Entry} :
    e ∈ (r.erase k).entries ↔ e ∈ r.entries ∧ e.1 ≠ k := by
  simp [erase]

theorem mem_keys {r : Registry} {k : String} :
    k ∈ r.keys ↔ exists v, (k, v) ∈ r.entries := by
  simp [keys]

theorem mem_keys_emplace (r : Registry) (k : String) (v : SubscriptionImpl) :
    k ∈ (r.emplace k v).keys := by
  by_cases hk : k ∈ r.keys
  · obtain ⟨v', hv'⟩ := mem_keys.1 hk
    exact mem_keys.2 ⟨v', mem_emplace.2 (.inl hv')⟩
  · exact mem_keys.2 ⟨v, mem_emplace.2 (.inr ⟨rfl, hk⟩)⟩

theorem eq_of_mem_of_mem {r : Registry} {a b : Entry} (ha : a ∈ r.entries)
    (hb : b ∈ r.entries) (hab : a.1 = b.1) : a = b := by
  have key : forall l : List Entry, l.Pairwise (fun a b => a.1 < b.1) ->
      a ∈ l -> b ∈ l -> a = b := by
    intro l hl
    induction hl with
    | nil => simp
    | @cons x rest hx _ ih =>
        intro ha hb
        rcases List.mem_cons.mp ha with rfl | har <;> rcases List.mem_cons.mp hb with rfl | hbr
        · rfl
        · exact absurd (hx b hbr) (by rw [hab]; exact lt_irrefl _)
        · exact absurd (hx a har) (by rw [hab]; exact lt_irrefl _)
        · exact ih har hbr
  exact key r.entries r.sorted ha hb

theorem findPending_some {r : Registry} {id : UInt64} {e : Entry}
    (h : r.findPending id = some e) : e ∈ r.entries ∧ e.2.pendingRequestId = id := by
  unfold findPending at h
  exact ⟨List.mem_of_find?_eq_some h, by simpa using List.find?_some h⟩

theorem findPending_none {r : Registry} {id : UInt64} (h : r.findPending id = none) :
    ∀ e ∈ r.entries, e.2.pendingRequestId ≠ id := by
  unfold findPending at h
  simpa using h

theorem findPending_eq_none {r : Registry} {id : UInt64}
    (h : ∀ e ∈ r.entries, e.2.pendingRequestId ≠ id) : r.findPending id = none :=
  List.find?_eq_none.2 fun e he => by simpa using h e he

theorem findSub_some {r : Registry} {sub : Handle} {e : Entry}
    (h : r.findSub sub = some e) : e ∈ r.entries ∧ e.2.sub = sub := by
  unfold findSub at h
  exact ⟨List.mem_of_find?_eq_some h, by simpa using List.find?_some h⟩

theorem find_some {r : Registry} {k : String} {v : SubscriptionImpl}
    (h : r.find k = some v) : (k, v) ∈ r.entries := by
  unfold find at h
  obtain ⟨e, he, rfl⟩ := Option.map_eq_some'.mp h
  have hk : e.1 = k := by simpa using List.find?_some he
  exact hk ▸ List.mem_of_find?_eq_some he

theorem find_none {r : Registry} {k : String} (h : r.find k = none) : k ∉ r.keys := by
  unfold find at h
  simp only [Option.map_eq_none', List.find?_eq_none, decide_eq_true_eq] at h
  rw [mem_keys]
  rintro ⟨v, hv⟩
  exact h _ hv rfl

theorem find_eq_some_iff {r : Registry} {k : String} {v : SubscriptionImpl} :
    r.find k = some v ↔ (k, v) ∈ r.entries := by
  refine ⟨find_some, fun h => ?_⟩
  unfold find
  rcases hf : r.entries.find? (fun e => e.1 = k) with _ | e
  · simp only [List.find?_eq_none, decide_eq_true_eq] at hf
    exact absurd rfl (hf _ h)
  · have hk : e.1 = k := by simpa using List.find?_some hf
    cases eq_of_mem_of_mem (List.mem_of_find?_eq_some hf) h hk
    rw [hf]
    rfl

theorem find_congr {r r' : Registry} {k : String}
    (h : ∀ v, (k, v) ∈ r.entries ↔ (k, v) ∈ r'.entries) : r.find k = r'.find k :=
  Option.ext fun v => by rw [Option.mem_def, Option.mem_def, find_eq_some_iff, find_eq_some_iff, h]

theorem find_emplace_self {r : Registry} {k : String} {v : SubscriptionImpl} (hk : k ∉ r.keys) :
    (r.emplace k v).find k = some v :=
  find_eq_some_iff.2 (mem_emplace.2 (.inr ⟨rfl, hk⟩))

theorem find_emplace_ne {r : Registry} {k k' : String} {v : SubscriptionImpl} (h : k' ≠ k) :
    (r.emplace k v).find k' = r.find k' :=
  find_congr fun w => by simp [mem_emplace, h]

theorem find_modify_self {r : Registry} {k : String} {f : SubscriptionImpl -> SubscriptionImpl}
    {v : SubscriptionImpl} (hv : r.find k = some v) : (r.modify k f).find k = some (f v) :=
  find_eq_some_iff.2 (mem_modify.2 (.inl ⟨v, find_some hv, rfl⟩))

theorem find_modify_ne {r : Registry} {k k' : String} {f : SubscriptionImpl -> SubscriptionImpl}
    (h : k' ≠ k) : (r.modify k f).find k' = r.find k' :=
  find_congr fun w => by simp [mem_modify, h]

theorem find_erase_self (r : Registry) (k : String) : (r.erase k).find k = none :=
  Option.eq_none_iff_forall_not_mem.2 fun v hv => by
    simpa using find_some (Option.mem_def.1 hv)

theorem find_erase_ne {r : Registry} {k k' : String} (h : k' ≠ k) :
    (r.erase k).find k' = r.find k' :=
  find_congr fun w => by simp [h]

theorem findPending_of_mem {r : Registry} {e : Entry} (he : e ∈ r.entries)
    (hu : ∀ a ∈ r.entries, a.2.pendingRequestId = e.2.pendingRequestId -> a = e) :
    r.findPending e.2.pendingRequestId = some e := by
  rcases hf : r.findPending e.2.pendingRequestId with _ | a
  · exact absurd rfl (findPending_none hf e he)
  · obtain ⟨ha, hid⟩ := findPending_some hf
    rw [hu a ha hid]

theorem findSub_of_mem {r : Registry} {e : Entry} (he : e ∈ r.entries)
    (hu : ∀ a ∈ r.entries, a.2.sub = e.2.sub -> a = e) : r.findSub e.2.sub = some e := by
  rcases hf : r.findSub e.2.sub with _ | a
  · simp only [findSub, List.find?_eq_none, decide_eq_true_eq] at hf
    exact absurd rfl (hf e he)
  · obtain ⟨ha, hsub⟩ := findSub_some hf
    rw [hu a ha hsub]

theorem erase_emplace {r : Registry} {k : String} {v : SubscriptionImpl} (hk : k ∉ r.keys) :
    (r.emplace k v).erase k = r := by
  obtain ⟨l, hl⟩ := r
  refine ext_entries ?_
  replace hk : ∀ e ∈ l, e.1 ≠ k := fun e he h => hk (mem_keys.2 ⟨e.2, h ▸ he⟩)
  simp only [erase, emplace]
  clear hl
  induction l with
  | nil => simp [emplaceEntries]
  | cons e rest ih =>
    have he : e.1 ≠ k := hk e (List.mem_cons_self _ _)
    have hrest : ∀ x ∈ rest, x.1 ≠ k := fun x hx => hk x (List.mem_cons_of_mem _ hx)
    unfold emplaceEntries
    split_ifs with hlt heq
    · rw [List.filter_cons_of_neg (by simp), List.filter_cons_of_pos (by simpa using he),
        List.filter_eq_self.2 fun x hx => by simpa using hrest x hx]
    · exact absurd heq.symm he
    · rw [List.filter_cons_of_pos (by simpa using he), ih hrest]

theorem modify_emplace {r : Registry} {k : String} {v : SubscriptionImpl}
    {f : SubscriptionImpl -> SubscriptionImpl} (hk : k ∉ r.keys) :
    (r.emplace k v).modify k f = r.emplace k (f v) := by
  obtain ⟨l, hl⟩ := r
  refine ext_entries ?_
  replace hk : ∀ e ∈ l, e.1 ≠ k := fun e he h => hk (mem_keys.2 ⟨e.2, h ▸ he⟩)
  simp only [modify, emplace]
  clear hl
  induction l with
  | nil => simp [emplaceEntries]
  | cons e rest ih =>
    have he : e.1 ≠ k := hk e (List.mem_cons_self _ _)
    have hrest : ∀ x ∈ rest, x.1 ≠ k := fun x hx => hk x (List.mem_cons_of_mem _ hx)
    unfold emplaceEntries
    split_ifs with hlt heq
    · have hid : rest.map (fun x => if x.1 = k then (x.1, f x.2) else x) = rest :=
        (List.map_congr_left fun x hx => if_neg (hrest x hx)).trans (List.map_id rest)
      rw [List.map_cons, List.map_cons, if_pos rfl, if_neg he, hid]
    · exact absurd heq.symm he
    · rw [List.map_cons, if_neg he, ih hrest]

theorem findPending_emplace {r : Registry} {k : String} {v : SubscriptionImpl}
    (hk : k ∉ r.keys) (hfree : ∀ e ∈ r.entries, e.2.pendingRequestId ≠ v.pendingRequestId) :
    (r.emplace k v).findPending v.pendingRequestId = some (k, v) :=
  findPending_of_mem (mem_emplace.2 (.inr ⟨rfl, hk⟩)) fun a ha hid =>
    (mem_emplace.1 ha).elim (fun ha => absurd hid (hfree a ha)) (·.1)

theorem findSub_emplace {r : Registry} {k : String} {v : SubscriptionImpl}
    (hk : k ∉ r.keys) (hsub : ∀ e ∈ r.entries, e.2.sub ≠ v.sub) :
    (r.emplace k v).findSub v.sub = some (k, v) :=
  findSub_of_mem (mem_emplace.2 (.inr ⟨rfl, hk⟩)) fun a ha hs =>
    (mem_emplace.1 ha).elim (fun ha => absurd hs (hsub a ha)) (·.1)

end Registry

end RtmClient
