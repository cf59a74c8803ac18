import AgqlAuth.RateLimit.MemoryStore

/-!
# The expiry index of the in-memory rate-limit store

The entries and the expiry buckets of `MemoryState` stay in step over every
history and any clock.  With that invariant an operation reclaims exactly what
has expired, so nothing unexpired is ever evicted, not even at capacity.
-/

namespace AgqlAuth

open Interaction

abbrev ExpiryBuckets := List (OffsetDateTime × List AuthRateLimitKey)

variable {buckets : ExpiryBuckets} {expiry now time : OffsetDateTime}
variable {key other : AuthRateLimitKey}

/-- `key` is listed in the bucket of `expiry`. -/
def Listed (buckets : ExpiryBuckets) (expiry : OffsetDateTime) (key : AuthRateLimitKey) : Prop :=
  ∃ keys, (expiry, keys) ∈ buckets ∧ key ∈ keys

/-- One bucket an expiry time, none of them empty, each a set of keys. -/
structure OrderedBuckets (buckets : ExpiryBuckets) : Prop where
  ordered : buckets.Pairwise fun earlier later => earlier.1 < later.1
  filled : ∀ bucket ∈ buckets, bucket.2 ≠ []
  distinct : ∀ bucket ∈ buckets, bucket.2.Nodup

theorem OrderedBuckets.nil : OrderedBuckets [] := ⟨.nil, by simp, by simp⟩

theorem OrderedBuckets.tail {bucket : OffsetDateTime × List AuthRateLimitKey}
    (index : OrderedBuckets (bucket :: buckets)) : OrderedBuckets buckets :=
  ⟨index.ordered.of_cons, fun b mem => index.filled b (.tail _ mem),
    fun b mem => index.distinct b (.tail _ mem)⟩

theorem OrderedBuckets.cons {keys : List AuthRateLimitKey} (index : OrderedBuckets buckets)
    (first : ∀ bucket ∈ buckets, time < bucket.1) (filled : keys ≠ []) (distinct : keys.Nodup) :
    OrderedBuckets ((time, keys) :: buckets) where
  ordered := .cons first index.ordered
  filled := by
    simp only [List.forall_mem_cons]
    exact ⟨filled, index.filled⟩
  distinct := by
    simp only [List.forall_mem_cons]
    exact ⟨distinct, index.distinct⟩

theorem OrderedBuckets.first {keys : List AuthRateLimitKey}
    (index : OrderedBuckets ((time, keys) :: buckets)) : ∀ bucket ∈ buckets, time < bucket.1 :=
  fun _ mem => List.rel_of_pairwise_cons index.ordered mem

@[simp]
theorem listed_nil : ¬Listed [] expiry key := by
  rintro ⟨keys, mem, -⟩
  cases mem

@[simp]
theorem listed_cons {keys : List AuthRateLimitKey} :
    Listed ((time, keys) :: buckets) expiry key ↔
      (expiry = time ∧ key ∈ keys) ∨ Listed buckets expiry key := by
  constructor
  · rintro ⟨found, mem, listed⟩
    rcases List.mem_cons.mp mem with same | rest
    · obtain ⟨rfl, rfl⟩ := Prod.mk.inj same
      exact .inl ⟨rfl, listed⟩
    · exact .inr ⟨found, rest, listed⟩
  · rintro (⟨rfl, listed⟩ | ⟨found, rest, listed⟩)
    · exact ⟨keys, .head _, listed⟩
    · exact ⟨found, .tail _ rest, listed⟩

theorem Listed.later (first : ∀ bucket ∈ buckets, time < bucket.1)
    (listed : Listed buckets expiry key) : time < expiry := by
  obtain ⟨keys, mem, -⟩ := listed
  exact first _ mem

theorem time_mem_addExpiration {bucket : OffsetDateTime × List AuthRateLimitKey}
    (mem : bucket ∈ addExpiration expiry key buckets) :
    bucket.1 = expiry ∨ ∃ previous ∈ buckets, previous.1 = bucket.1 := by
  induction buckets with
  | nil =>
      obtain rfl := List.mem_singleton.mp mem
      exact .inl rfl
  | cons head rest ih =>
      unfold addExpiration at mem
      split at mem
      · rcases List.mem_cons.mp mem with rfl | kept
        · exact .inl rfl
        · exact .inr ⟨bucket, kept, rfl⟩
      · split at mem
        · rcases List.mem_cons.mp mem with rfl | kept
          · exact .inr ⟨head, .head _, rfl⟩
          · exact .inr ⟨bucket, .tail _ kept, rfl⟩
        · rcases List.mem_cons.mp mem with rfl | kept
          · exact .inr ⟨head, .head _, rfl⟩
          · rcases ih kept with own | ⟨previous, present, same⟩
            · exact .inl own
            · exact .inr ⟨previous, .tail _ present, same⟩

theorem listed_addExpiration :
    Listed (addExpiration expiry key buckets) time other ↔
      (time = expiry ∧ other = key) ∨ Listed buckets time other := by
  induction buckets with
  | nil => simp [addExpiration]
  | cons head rest ih =>
      obtain ⟨headTime, keys⟩ := head
      unfold addExpiration
      split
      · simp
      · split
        · rename_i same
          subst same
          rw [listed_cons, listed_cons]
          split <;> grind
        · rw [listed_cons, listed_cons, ih]
          tauto

theorem OrderedBuckets.add (index : OrderedBuckets buckets) :
    OrderedBuckets (addExpiration expiry key buckets) := by
  induction buckets with
  | nil => exact .cons .nil (by simp) (by simp) (by simp)
  | cons head rest ih =>
      obtain ⟨headTime, keys⟩ := head
      unfold addExpiration
      split
      · rename_i earlier
        refine index.cons ?_ (by simp) (by simp)
        simp only [List.forall_mem_cons]
        exact ⟨earlier, fun bucket mem => earlier.trans (index.first bucket mem)⟩
      · rename_i reached
        split
        · refine index.tail.cons index.first ?_ ?_
          · split
            · exact index.filled _ (.head _)
            · simp
          · have distinct := index.distinct _ (.head _)
            split
            · exact distinct
            · exact distinct.cons ‹_›
        · rename_i differs
          refine (ih index.tail).cons ?_ (index.filled _ (.head _)) (index.distinct _ (.head _))
          intro bucket mem
          rcases time_mem_addExpiration mem with own | ⟨previous, present, same⟩
          · rw [own]
            exact lt_of_le_of_ne (not_lt.mp reached) (Ne.symm differs)
          · rw [← same]
            exact index.first previous present

theorem time_mem_dropExpiration {bucket : OffsetDateTime × List AuthRateLimitKey}
    (mem : bucket ∈ dropExpiration expiry key buckets) :
    ∃ previous ∈ buckets, previous.1 = bucket.1 := by
  induction buckets with
  | nil => cases mem
  | cons head rest ih =>
      unfold dropExpiration at mem
      split at mem
      · split at mem
        · exact ⟨bucket, .tail _ mem, rfl⟩
        · rcases List.mem_cons.mp mem with rfl | kept
          · exact ⟨head, .head _, rfl⟩
          · exact ⟨bucket, .tail _ kept, rfl⟩
      · rcases List.mem_cons.mp mem with rfl | kept
        · exact ⟨head, .head _, rfl⟩
        · obtain ⟨previous, present, same⟩ := ih kept
          exact ⟨previous, .tail _ present, same⟩

theorem listed_dropExpiration (index : OrderedBuckets buckets) :
    Listed (dropExpiration expiry key buckets) time other ↔
      Listed buckets time other ∧ ¬(time = expiry ∧ other = key) := by
  induction buckets with
  | nil => simp [dropExpiration]
  | cons head rest ih =>
      obtain ⟨headTime, keys⟩ := head
      have distinct : keys.Nodup := index.distinct _ (.head _)
      have later : Listed rest headTime other → False :=
        fun listed => lt_irrefl _ (listed.later index.first)
      unfold dropExpiration
      split
      · rename_i same
        subst same
        have erased := distinct.mem_erase_iff (a := other) (b := key)
        split
        · rename_i emptied
          rw [List.isEmpty_iff] at emptied
          rw [emptied] at erased
          grind [listed_cons]
        · rw [listed_cons, listed_cons, erased]
          grind
      · rename_i differs
        rw [listed_cons, listed_cons, ih index.tail]
        grind

theorem OrderedBuckets.drop (index : OrderedBuckets buckets) :
    OrderedBuckets (dropExpiration expiry key buckets) := by
  induction buckets with
  | nil => exact .nil
  | cons head rest ih =>
      obtain ⟨headTime, keys⟩ := head
      unfold dropExpiration
      split
      · split
        · exact index.tail
        · rename_i kept
          refine index.tail.cons index.first ?_ ((index.distinct _ (.head _)).erase key)
          simpa using kept
      · refine (ih index.tail).cons ?_ (index.filled _ (.head _)) (index.distinct _ (.head _))
        intro bucket mem
        obtain ⟨previous, present, same⟩ := time_mem_dropExpiration mem
        rw [← same]
        exact index.first previous present

namespace MemoryState

variable {self : MemoryState}

/-- The keys that the buckets hold, bucket by bucket. -/
def bucketKeys (buckets : ExpiryBuckets) : List AuthRateLimitKey := buckets.flatMap (·.2)

def bucketTotal (self : MemoryState) : Nat := (self.expirations.map fun bucket => bucket.2.length).sum

/-- Every stored key is in the bucket of its own expiry time, and in no other. -/
structure Indexed (m : MemoryState) : Prop where
  index : OrderedBuckets m.expirations
  placed : ∀ expiry key, Listed m.expirations expiry key ↔
    ∃ snapshot, m.entries.lookup key = some snapshot ∧ snapshot.state.expiresAt = expiry

theorem Indexed.empty : empty.Indexed where
  index := .nil
  placed := by
    intro expiry key
    simp [MemoryState.empty]

theorem mem_bucketKeys : key ∈ bucketKeys buckets ↔ ∃ expiry, Listed buckets expiry key := by
  unfold bucketKeys
  rw [List.mem_flatMap]
  constructor
  · rintro ⟨bucket, mem, listed⟩
    exact ⟨bucket.1, bucket.2, mem, listed⟩
  · rintro ⟨expiry, keys, mem, listed⟩
    exact ⟨(expiry, keys), mem, listed⟩

theorem nodup_bucketKeys (index : OrderedBuckets buckets)
    (unique : ∀ key first second, Listed buckets first key → Listed buckets second key →
      first = second) : (bucketKeys buckets).Nodup := by
  refine List.nodup_flatMap.mpr ⟨index.distinct, ?_⟩
  refine index.ordered.imp_of_mem ?_
  intro earlier later first second before key listed again
  have same := unique key earlier.1 later.1 ⟨_, first, listed⟩ ⟨_, second, again⟩
  exact absurd same before.ne

theorem Indexed.unique (indexed : self.Indexed) (key : AuthRateLimitKey)
    (first second : OffsetDateTime) (listed : Listed self.expirations first key)
    (again : Listed self.expirations second key) : first = second := by
  obtain ⟨snapshot, stored, rfl⟩ := (indexed.placed _ _).mp listed
  obtain ⟨same, stored', rfl⟩ := (indexed.placed _ _).mp again
  rw [stored] at stored'
  cases stored'
  rfl

theorem mem_keys_iff : key ∈ self.entries.keys ↔ ∃ snapshot, self.entries.lookup key = some snapshot := by
  rw [← AList.mem_keys, ← AList.lookup_isSome, Option.isSome_iff_exists]

/-- The buckets list the stored keys, each once. -/
theorem Indexed.perm (indexed : self.Indexed) :
    (bucketKeys self.expirations).Perm self.entries.keys := by
  rw [List.perm_ext_iff_of_nodup (nodup_bucketKeys indexed.index indexed.unique)
    self.entries.keys_nodup]
  intro key
  rw [mem_bucketKeys, mem_keys_iff]
  constructor
  · rintro ⟨expiry, listed⟩
    obtain ⟨snapshot, stored, -⟩ := (indexed.placed _ _).mp listed
    exact ⟨snapshot, stored⟩
  · rintro ⟨snapshot, stored⟩
    exact ⟨_, (indexed.placed _ _).mpr ⟨snapshot, stored, rfl⟩⟩

theorem Indexed.total (indexed : self.Indexed) :
    self.bucketTotal = self.entries.entries.length := by
  have counted := indexed.perm.length_eq
  unfold bucketKeys at counted
  rw [List.length_flatMap] at counted
  simpa [AList.keys, List.keys, bucketTotal] using counted

theorem lookup_remove :
    (self.remove key).entries.lookup other =
      if other = key then none else self.entries.lookup other := by
  split
  · rename_i same
    rw [same]
    exact lookup_remove_self
  · exact lookup_remove_of_ne ‹_›

theorem lookup_insert {snapshot : AuthRateLimitSnapshot} :
    (self.insert key snapshot).entries.lookup other =
      if other = key then some snapshot else self.entries.lookup other := by
  unfold insert
  dsimp only
  split
  · rename_i same
    rw [same]
    exact AList.lookup_insert _
  · rename_i differs
    rw [AList.lookup_insert_ne differs, lookup_remove, if_neg differs]

theorem Indexed.remove (indexed : self.Indexed) : (self.remove key).Indexed := by
  cases present : self.entries.lookup key with
  | none =>
      unfold MemoryState.remove
      rw [present]
      exact indexed
  | some previous =>
      have buckets : (self.remove key).expirations =
          dropExpiration previous.state.expiresAt key self.expirations := by
        unfold MemoryState.remove
        rw [present]
      refine ⟨by rw [buckets]; exact indexed.index.drop, ?_⟩
      intro expiry other
      rw [buckets, listed_dropExpiration indexed.index, indexed.placed, lookup_remove]
      by_cases same : other = key
      · subst same
        simp [present, eq_comm]
      · simp [same]

theorem Indexed.insert {snapshot : AuthRateLimitSnapshot} (indexed : self.Indexed) :
    (self.insert key snapshot).Indexed := by
  have removed : (self.remove key).Indexed := indexed.remove
  refine ⟨removed.index.add, ?_⟩
  intro expiry other
  rw [lookup_insert]
  unfold MemoryState.insert
  dsimp only
  rw [listed_addExpiration, removed.placed, lookup_remove]
  by_cases same : other = key
  · simp [same, eq_comm]
  · simp [same]

theorem lookup_purgeKeys_eq {entries : AList fun _ : AuthRateLimitKey => AuthRateLimitSnapshot}
    {removed : Nat} (keys : List AuthRateLimitKey) :
    (purgeKeys entries removed keys).1.lookup key =
      if key ∈ keys then none else entries.lookup key := by
  induction keys generalizing entries removed with
  | nil => simp [purgeKeys]
  | cons purged keys ih =>
      unfold purgeKeys
      rw [ih]
      by_cases same : key = purged
      · subst same
        simp
      · simp [same]

/-- The loop stops at the first bucket that is not due. -/
theorem expirations_purgeBuckets
    (entries : AList fun _ : AuthRateLimitKey => AuthRateLimitSnapshot) (removed : Nat)
    (index : OrderedBuckets buckets) :
    OrderedBuckets (purgeBuckets now entries removed buckets).1.expirations ∧
      ∀ expiry key, Listed (purgeBuckets now entries removed buckets).1.expirations expiry key ↔
        Listed buckets expiry key ∧ now < expiry := by
  induction buckets generalizing entries removed with
  | nil =>
      refine ⟨.nil, ?_⟩
      simp [purgeBuckets]
  | cons head rest ih =>
      obtain ⟨time, keys⟩ := head
      unfold purgeBuckets
      split
      · rename_i due
        refine ⟨(ih _ _ index.tail).1, ?_⟩
        intro expiry key
        dsimp only
        rw [(ih _ _ index.tail).2, listed_cons]
        have overdue : ¬(expiry = time ∧ now < expiry) := by
          rintro ⟨rfl, later⟩
          exact absurd due later.not_ge
        tauto
      · rename_i pending
        refine ⟨index, ?_⟩
        intro expiry key
        refine ⟨fun listed => ⟨listed, ?_⟩, And.left⟩
        have reached : time ≤ expiry := by
          rcases listed_cons.mp listed with ⟨same, -⟩ | later
          · exact same.ge
          · exact (later.later index.first).le
        exact (not_le.mp pending).trans_le reached

theorem lookup_purgeBuckets_due
    {entries : AList fun _ : AuthRateLimitKey => AuthRateLimitSnapshot} {removed : Nat}
    (index : OrderedBuckets buckets) (listed : Listed buckets expiry key) (due : expiry ≤ now) :
    (purgeBuckets now entries removed buckets).1.entries.lookup key = none := by
  induction buckets generalizing entries removed with
  | nil => exact absurd listed listed_nil
  | cons head rest ih =>
      obtain ⟨time, keys⟩ := head
      have first : time ≤ now := by
        rcases listed_cons.mp listed with ⟨rfl, -⟩ | later
        · exact due
        · exact (later.later index.first).le.trans due
      unfold purgeBuckets
      rw [if_pos first]
      dsimp only
      rcases listed_cons.mp listed with ⟨-, own⟩ | later
      · have gone : (purgeKeys entries removed keys).1.lookup key = none := by
          rw [lookup_purgeKeys_eq, if_pos own]
        rcases lookup_purgeBuckets (purgeKeys entries removed keys).1
          (purgeKeys entries removed keys).2 rest with same | none
        · rw [same, gone]
        · exact none
      · exact ih index.tail later

theorem lookup_purgeBuckets_pending
    {entries : AList fun _ : AuthRateLimitKey => AuthRateLimitSnapshot} {removed : Nat}
    (pending : ∀ expiry, Listed buckets expiry key → now < expiry) :
    (purgeBuckets now entries removed buckets).1.entries.lookup key = entries.lookup key := by
  induction buckets generalizing entries removed with
  | nil => rfl
  | cons head rest ih =>
      obtain ⟨time, keys⟩ := head
      unfold purgeBuckets
      split
      · rename_i due
        dsimp only
        rw [ih fun expiry listed => pending expiry (listed_cons.mpr (.inr listed)),
          lookup_purgeKeys_eq, if_neg]
        intro own
        exact absurd due (pending time (listed_cons.mpr (.inl ⟨rfl, own⟩))).not_ge
      · rfl

theorem purgeKeys_count {entries : AList fun _ : AuthRateLimitKey => AuthRateLimitSnapshot}
    {removed : Nat} (keys : List AuthRateLimitKey) :
    (purgeKeys entries removed keys).1.keys.length + (purgeKeys entries removed keys).2 =
      entries.keys.length + removed := by
  induction keys generalizing entries removed with
  | nil => rfl
  | cons purged keys ih =>
      unfold purgeKeys
      rw [ih, AList.keys_erase, List.length_erase]
      by_cases stored : purged ∈ entries.keys
      · have nonempty := List.length_pos_of_mem stored
        have present := AList.lookup_isSome.mpr (AList.mem_keys.mpr stored)
        simp [stored, present]
        omega
      · have absent := AList.lookup_eq_none.mpr (mt AList.mem_keys.mp stored)
        simp [stored, absent]

theorem purgeBuckets_count {entries : AList fun _ : AuthRateLimitKey => AuthRateLimitSnapshot}
    {removed : Nat} :
    (purgeBuckets now entries removed buckets).1.entries.keys.length +
      (purgeBuckets now entries removed buckets).2 = entries.keys.length + removed := by
  induction buckets generalizing entries removed with
  | nil => rfl
  | cons head rest ih =>
      unfold purgeBuckets
      split
      · dsimp only
        rw [ih, purgeKeys_count]
      · rfl

/-- Reclaiming removes what has expired, and nothing else. -/
theorem Indexed.lookup_purgeExpired (indexed : self.Indexed) :
    (self.purgeExpired now).1.entries.lookup key =
      (self.entries.lookup key).filter fun snapshot => now < snapshot.state.expiresAt := by
  unfold purgeExpired
  cases stored : self.entries.lookup key with
  | none =>
      rcases lookup_purgeBuckets self.entries 0 self.expirations with same | none
      · rw [same, stored, Option.filter_none]
      · rw [none, Option.filter_none]
  | some snapshot =>
      have listed := (indexed.placed _ _).mpr ⟨snapshot, stored, rfl⟩
      by_cases unexpired : now < snapshot.state.expiresAt
      · rw [lookup_purgeBuckets_pending, stored, Option.filter_some_pos]
        · simpa using unexpired
        · intro expiry again
          rwa [indexed.unique key _ _ again listed]
      · rw [lookup_purgeBuckets_due indexed.index listed (not_lt.mp unexpired),
          Option.filter_some_neg]
        simpa using unexpired

theorem Indexed.purgeExpired (indexed : self.Indexed) : (self.purgeExpired now).1.Indexed := by
  obtain ⟨index, listed⟩ := expirations_purgeBuckets self.entries 0 indexed.index
  refine ⟨index, ?_⟩
  intro expiry key
  rw [indexed.lookup_purgeExpired]
  refine (listed expiry key).trans ?_
  rw [indexed.placed]
  constructor
  · rintro ⟨⟨snapshot, stored, rfl⟩, unexpired⟩
    exact ⟨snapshot, by simp [stored, unexpired], rfl⟩
  · rintro ⟨snapshot, kept, rfl⟩
    obtain ⟨stored, unexpired⟩ := Option.filter_eq_some_iff.mp kept
    exact ⟨⟨snapshot, stored, rfl⟩, by simpa using unexpired⟩

end MemoryState

end AgqlAuth
