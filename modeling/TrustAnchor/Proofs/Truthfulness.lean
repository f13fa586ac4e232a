import TrustAnchor.Proofs.Evaluation
import TrustAnchor.Proofs.Versions

/-! One attempt to bring an object about, in a store that nobody else writes to. What it answers is
what it did: it says that it created or updated the object just if it did so, at a version that no
object had before, and whatever else it says, it left all objects alone. -/

namespace TrustAnchor

open Resource (anyName version metadata named withVersion withMetadata)

namespace Store

variable {α : Type} [Resource α] {s t : Store α} {x : α} {found : Option α} {name : String}
  {past : List α}

/-- The store after a read. -/
def looked (s : Store α) : Store α := { s with gets := s.gets + 1 }

omit [Resource α] in
theorem left_get : (s.get name).2 = s.looked := by
  rw [get]
  dsimp only
  split <;> rfl

/-- How an object is written that was looked for before. -/
def putting (found : Option α) (x : α) : Operation α :=
  match found with
  | none => .create x
  | some _ => .replace x

/-- There is nothing where nothing was found, and what was found is at the version of the object. -/
def Meets (s : Store α) (found : Option α) (x : α) : Prop :=
  s.objects.get? (anyName x) = found ∧ ∀ current, found = some current → version x = version current

/-- Such a write goes on unless it is refused in advance. -/
theorem serve_putting_of_open (hopen : s.Open) (hmeets : s.Meets found x) :
    (∃ y, (s.serve (putting found x)).1 = .ok y) ∧
      (s.serve (putting found x)).2 = (s.write x).2 := by
  obtain ⟨hfound, hversion⟩ := hmeets
  cases found with
  | none =>
    obtain ⟨y, hy⟩ := create_ok_iff.2 ⟨hopen, hfound⟩
    exact ⟨⟨some y, by rw [putting, serve, hy]; rfl⟩, create_of_ok hy⟩
  | some current =>
    obtain ⟨y, hy⟩ := replace_ok_iff.2 ⟨hopen, current, hfound, hversion current rfl⟩
    exact ⟨⟨some y, by rw [putting, serve, hy]; rfl⟩, replace_of_ok hy⟩

theorem serve_putting_of_closed (hclosed : ¬ s.Open) :
    ∃ e, (s.serve (putting found x)).1 = .error e := by
  cases found with
  | none =>
    cases hanswer : (s.create x).1 with
    | ok y => exact absurd (create_ok_iff.1 ⟨y, hanswer⟩).1 hclosed
    | error e => exact ⟨e, by rw [putting, serve, hanswer]; rfl⟩
  | some current =>
    cases hanswer : (s.replace x).1 with
    | ok y => exact absurd (replace_ok_iff.1 ⟨y, hanswer⟩).1 hclosed
    | error e => exact ⟨e, by rw [putting, serve, hanswer]; rfl⟩

/-- The objects, the next version and the number of writes are the same, and one more read is
counted. -/
structure Untouched (s t : Store α) : Prop where
  alike : s.Alike t
  writes : t.writes = s.writes
  gets : t.gets = s.gets + 1

omit [Resource α] in
theorem untouched_looked : s.Untouched s.looked := ⟨⟨rfl, rfl⟩, rfl, rfl⟩

omit [Resource α] in
theorem untouched_of_spared (H : s.looked.Spared (putting found x) t) : s.Untouched t := by
  cases found with
  | none | some =>
    rcases H with rfl | ⟨n, -, rfl⟩
    · exact untouched_looked
    · exact ⟨⟨rfl, rfl⟩, rfl, rfl⟩

/-- After a read, an object has been put under a name, at a version that no object of the past
had. -/
structure Lands (s : Store α) (past : List α) (name : String) (x : α) (t : Store α) : Prop where
  objects : t.objects = s.objects.insert name (withVersion x s.nextVersion)
  fresh : ∀ y ∈ past, version y ≠ version (withVersion x s.nextVersion)
  nextVersion : t.nextVersion = s.nextVersion + 1
  writes : t.writes = s.writes + 1
  gets : t.gets = s.gets + 1

theorem Records.lands (H : s.Records past) (hname : anyName x = name) :
    s.Lands past name x (s.looked.write x).2 where
  objects := by
    subst hname
    simp [write, put, looked]
  fresh y hy he := by
    obtain ⟨v, hlt, hv⟩ := H.given y hy
    rw [hv, Resource.version_withVersion] at he
    exact hlt.ne (eq_of_repr_eq (Option.some.inj he))
  nextVersion := rfl
  writes := rfl
  gets := rfl

end Store

namespace Amendment

variable {k : Kind} {name : String} {β : Type} {A : Amendment k name β} {w : World Cluster}
  {found : Option k.Object} {x : k.Object} {b : β}

/-- What an attempt comes to in a store that nobody else writes to, and what it leaves of it. -/
inductive Tried (A : Amendment k name β) (s : Store k.Object) :
    Except Error β → Store k.Object → Prop
  | unread {e : Error} : (s.get name).1 = .error e → A.Tried s (.error e) s.looked
  | finished {found : Option k.Object} {result : Except Error β} :
    (s.get name).1 = .ok found → A.plan found = .finish result → A.Tried s result s.looked
  | written {found : Option k.Object} {x : k.Object} {b : β} :
    (s.get name).1 = .ok found → A.plan found = .write x b → s.Open →
    A.Tried s (.ok b) (s.looked.write x).2
  | refused {found : Option k.Object} {x : k.Object} {b : β} {e : Error} {t : Store k.Object} :
    (s.get name).1 = .ok found → A.plan found = .write x b → ¬ s.Open →
    s.looked.Spared (Store.putting found x) t → A.Tried s (.error e) t

namespace Tried

variable {s t : Store k.Object} {answer : Except Error β}

/-- Only what has been read can come to a good end. -/
theorem readable (H : A.Tried s (.ok b) t) : t.readFailure = none := by
  have hreads {found : Option k.Object} (hread : (s.get name).1 = .ok found) :
      s.readFailure = none := Store.reads_of_get hread
  cases H with
  | finished hread | written hread => exact hreads hread

theorem records {past : List k.Object} (H : A.Tried s answer t) (hs : s.Records past) :
    ∃ past, t.Records past := by
  cases H with
  | unread | finished => exact ⟨_, hs.alike Store.untouched_looked.alike⟩
  | written => exact ⟨_, hs.gains (Store.untouched_looked.alike.gains_write _)⟩
  | refused _ _ _ hspared => exact ⟨_, hs.alike (Store.untouched_of_spared hspared).alike⟩

end Tried

theorem meets {s : Store k.Object} (hs : s.Sound)
    (hplan : A.plan (s.objects.get? name) = .write x b) : s.Meets (s.objects.get? name) x := by
  refine ⟨by rw [A.anyName_of_sound hs hplan], fun current hcurrent => ?_⟩
  rw [hcurrent] at hplan
  exact Resource.version_of_metadata (A.metadata hplan)

/-- In clear weather a write is an operation on the store. -/
theorem act_of_clear (H : (w.objects.site k).weather.Clear) (found : Option k.Object)
    (x : k.Object) (b : β) :
    w.result (act found (.write x b)).run =
        .ok (((w.objects.stores k).serve (Store.putting found x)).1.map fun _ => b) ∧
      (w.left (act found (.write x b)).run).objects.stores =
        Function.update w.objects.stores k
          ((w.objects.stores k).serve (Store.putting found x)).2 := by
  cases found with
  | none =>
    have hanswer := World.answer_of_clear H (.create x)
    have hstores := World.stores_of_clear H (.create x)
    show w.result (.ask _ _) = _ ∧ (w.left (.ask _ _)).objects.stores = _
    rw [World.result_ask hanswer, World.left_ask hanswer, Store.putting, Store.serve, Site.perform]
    rw [Site.perform] at hstores
    cases hcreated : ((w.objects.stores k).create x).1 with
    | ok y => exact ⟨rfl, hstores⟩
    | error e => exact ⟨rfl, hstores⟩
  | some current =>
    have hanswer := World.answer_of_clear H (.replace x)
    have hstores := World.stores_of_clear H (.replace x)
    show w.result (.ask _ _) = _ ∧ (w.left (.ask _ _)).objects.stores = _
    rw [World.result_ask hanswer, World.left_ask hanswer, Store.putting, Store.serve, Site.perform]
    rw [Site.perform] at hstores
    cases hreplaced : ((w.objects.stores k).replace x).1 with
    | ok y => exact ⟨rfl, hstores⟩
    | error e => exact ⟨rfl, hstores⟩

/-- An attempt in clear weather is tried, and no other store is touched. -/
theorem tried (H : (w.objects.site k).weather.Clear) (hsound : (w.objects.stores k).Sound) :
    ∃ answer t, w.result A.attempt.run = .ok answer ∧ A.Tried (w.objects.stores k) answer t ∧
      (w.left A.attempt.run).objects.stores = Function.update w.objects.stores k t := by
  have hanswer := World.answer_of_clear H (.get name)
  have hstores := World.stores_of_clear H (.get name)
  rw [Site.perform] at hanswer hstores
  rw [Store.left_get] at hstores
  have hnext : ((w.after (.store k (.get name))).objects.site k).weather.Clear :=
    World.weather_after H _
  show ∃ answer t, w.result (.ask _ _) = _ ∧ _ ∧ (w.left (.ask _ _)).objects.stores = _
  rw [World.result_ask hanswer, World.left_ask hanswer]
  cases hread : ((w.objects.stores k).get name).1 with
  | error e => exact ⟨.error e, _, rfl, .unread hread, hstores⟩
  | ok found =>
    show ∃ answer t, World.result _ (act found (A.plan found)).run = _ ∧ _ ∧
      (World.left _ (act found (A.plan found)).run).objects.stores = _
    cases hplan : A.plan found with
    | finish result => exact ⟨result, _, rfl, .finished hread hplan, hstores⟩
    | write x b =>
      obtain ⟨hresult, hleft⟩ := act_of_clear hnext found x b
      rw [hresult, hleft, hstores, Function.update_self, Function.update_idem]
      generalize w.objects.stores k = s at hsound hread ⊢
      obtain rfl := Store.found_of_get hread
      have hmeets : s.Meets (s.objects.get? name) x := A.meets hsound hplan
      by_cases hopen : s.Open
      · obtain ⟨⟨y, hy⟩, hwrite⟩ := Store.serve_putting_of_open (s := s.looked) hopen hmeets
        rw [hy, hwrite]
        exact ⟨.ok b, _, rfl, .written hread hplan hopen, rfl⟩
      · obtain ⟨e, he⟩ := Store.serve_putting_of_closed (s := s.looked) hopen
        rw [he]
        exact ⟨.error e, _, rfl, .refused hread hplan hopen (Store.spared_of_error he), rfl⟩

end Amendment

namespace Rotation

variable {k : Kind} {name : String} {namespaceName : Option String} {change : k.Object → k.Object}
  {w : World Cluster}

/-- The change neither reads nor changes metadata. -/
def Blind {α : Type} [Resource α] (change : α → α) : Prop :=
  ∀ x m, change (withMetadata x m) = withMetadata (change x) m

namespace Blind

variable {α : Type} [Resource α] {change : α → α} {x : α}

theorem metadata (H : Blind change) : metadata (change x) = Resource.metadata x := by
  calc
    Resource.metadata (change x)
      = Resource.metadata (change (withMetadata x (Resource.metadata x))) := by
        rw [Resource.withMetadata_metadata]
    _ = Resource.metadata x := by rw [H, Resource.metadata_withMetadata]

theorem withVersion {n : Nat} (H : Blind change) :
    change (withVersion x n) = Resource.withVersion (change x) n := by
  rw [Resource.withVersion, H, Resource.withVersion, H.metadata]

end Blind

/-- What an attempt answers is what it did to a store, in which nothing but the past was ever
stored. -/
structure Truthful {α : Type} [Resource α] (name : String) (namespaceName : Option String)
    (change : α → α) (s : Store α) (past : List α) (answer : Except Error Written) (t : Store α) :
    Prop where
  created : answer = .ok .created → s.objects.get? name = none ∧
    s.Lands past name (change (named name namespaceName)) t
  updated : answer = .ok .updated → ∃ x, s.objects.get? name = some x ∧ change x ≠ x ∧
    s.Lands past name (change x) t
  unchanged : answer = .ok .unchanged ↔ ∃ x, (s.get name).1 = .ok (some x) ∧ change x = x
  idle : answer = .ok .unchanged → t = s.looked
  error : ∀ {e}, answer = .error e → s.Untouched t
  /-- It fails only if a failure or a conflict has been ordered. -/
  answered : s.readFailure = none → s.Open → ∃ written, answer = .ok written

namespace Truthful

variable {α : Type} [Resource α] {change : α → α} {s t : Store α} {past : List α} {x : α}

theorem of_error {e : Error} (H : s.Untouched t)
    (hother : ¬ ∃ x, (s.get name).1 = .ok (some x) ∧ change x = x)
    (hordered : s.readFailure = none → ¬ s.Open) :
    Truthful name namespaceName change s past (.error e) t where
  created h := by cases h
  updated h := by cases h
  unchanged := iff_of_false (fun h => by cases h) hother
  idle h := by cases h
  error _ := H
  answered hreads hopen := absurd hopen (hordered hreads)

theorem of_unchanged (hread : (s.get name).1 = .ok (some x)) (hsame : change x = x) :
    Truthful name namespaceName change s past (.ok .unchanged) s.looked where
  created h := by cases h
  updated h := by cases h
  unchanged := iff_of_true rfl ⟨x, hread, hsame⟩
  idle _ := rfl
  error h := by cases h
  answered _ _ := ⟨_, rfl⟩

theorem of_created (hread : (s.get name).1 = .ok none)
    (H : s.Lands past name (change (named name namespaceName)) t) :
    Truthful name namespaceName change s past (.ok .created) t where
  created _ := ⟨(Store.found_of_get hread).symm, H⟩
  updated h := by cases h
  unchanged := by
    refine iff_of_false (fun h => by cases h) ?_
    rintro ⟨x, hx, -⟩
    cases hread.symm.trans hx
  idle h := by cases h
  error h := by cases h
  answered _ _ := ⟨_, rfl⟩

theorem of_updated (hread : (s.get name).1 = .ok (some x)) (hother : change x ≠ x)
    (H : s.Lands past name (change x) t) :
    Truthful name namespaceName change s past (.ok .updated) t where
  created h := by cases h
  updated _ := ⟨x, (Store.found_of_get hread).symm, hother, H⟩
  unchanged := by
    refine iff_of_false (fun h => by cases h) ?_
    rintro ⟨y, hy, hsame⟩
    cases hread.symm.trans hy
    exact hother hsame
  idle h := by cases h
  error h := by cases h
  answered _ _ := ⟨_, rfl⟩

end Truthful

theorem truthful_of_tried {s t : Store k.Object} {past : List k.Object}
    {answer : Except Error Written}
    {hchange : ∀ x, Resource.metadata (change x) = Resource.metadata x} (hs : s.Records past)
    (H : (creation k name namespaceName change hchange).Tried s answer t) :
    Truthful name namespaceName change s past answer t := by
  cases H with
  | unread hread =>
    refine .of_error Store.untouched_looked ?_ fun hreads => ?_
    · rintro ⟨x, hx, -⟩
      cases hread.symm.trans hx
    · cases hread.symm.trans (Store.get_of_reads hreads)
  | finished hread hplan =>
    obtain ⟨x, rfl, hsame, rfl⟩ := creation_finish hplan
    exact .of_unchanged hread hsame
  | @written found x written hread hplan hopen =>
    have hfound := Store.found_of_get hread
    have hlands : s.Lands past name x (s.looked.write x).2 :=
      hs.lands (Amendment.anyName_of_sound _ hs.sound (hfound ▸ hplan))
    rcases creation_write hplan with ⟨rfl, rfl, rfl⟩ | ⟨y, rfl, hother, rfl, rfl⟩
    · exact .of_created hread hlands
    · exact .of_updated hread hother hlands
  | refused hread hplan hclosed hspared =>
    refine .of_error (Store.untouched_of_spared hspared) ?_ fun _ => hclosed
    rintro ⟨z, hz, hsame⟩
    cases hread.symm.trans hz
    rcases creation_write hplan with ⟨hnone, -, -⟩ | ⟨y, hfound, hother, -, -⟩
    · cases hnone
    · cases hfound
      exact hother hsame

/-- An object that an attempt has written is as it is to be. -/
theorem Truthful.written {α : Type} [Resource α] {change : α → α} {s t : Store α} {past : List α}
    {answer : Except Error Written} (H : Truthful name namespaceName change s past answer t)
    (hblind : Blind change) (hidempotent : ∀ x, change (change x) = change x)
    (hanswer : answer = .ok .created ∨ answer = .ok .updated) :
    ∃ x, t.objects.get? name = some x ∧ change x = x := by
  obtain ⟨x, hlands⟩ : ∃ x, s.Lands past name (change x) t := by
    rcases hanswer with hcreated | hupdated
    · exact ⟨_, (H.created hcreated).2⟩
    · obtain ⟨x, -, -, hlands⟩ := H.updated hupdated
      exact ⟨x, hlands⟩
  refine ⟨withVersion (change x) s.nextVersion, ?_, ?_⟩
  · rw [hlands.objects, KeyMap.get?_insert_self]
  · rw [hblind.withVersion, hidempotent]

/-- An attempt to create or update an object is tried, and is truthful. -/
theorem createOrUpdate_tried (name : String) (namespaceName : Option String)
    {past : List k.Object} (hrecords : (w.objects.stores k).Records past)
    (hweather : (w.objects.site k).weather.Clear) (hblind : Blind change) :
    ∃ answer t, w.result (createOrUpdate k name namespaceName change).run = .ok answer ∧
      (creation k name namespaceName change fun _ => hblind.metadata).Tried (w.objects.stores k)
        answer t ∧
      Truthful name namespaceName change (w.objects.stores k) past answer t ∧
      (w.left (createOrUpdate k name namespaceName change).run).objects.stores =
        Function.update w.objects.stores k t := by
  rw [createOrUpdate_eq fun _ => hblind.metadata]
  obtain ⟨answer, t, hresult, htried, hleft⟩ := Amendment.tried hweather hrecords.sound
  exact ⟨answer, t, hresult, htried, truthful_of_tried hrecords htried, hleft⟩

/-- An attempt to create or update an object, in whatever state its store has come to, says what it
did, and touches no other store. If it has written the object and the change is idempotent, the same
attempt finds nothing more to do. -/
theorem createOrUpdate_truthful (name : String) (namespaceName : Option String)
    {ops : List (Store.Operation k.Object)} (hstore : w.objects.stores k = .after {} ops)
    (hweather : (w.objects.site k).weather.Clear) (hblind : Blind change) :
    let attempt := (createOrUpdate k name namespaceName change).run
    ∃ answer t, w.result attempt = .ok answer ∧
      Truthful name namespaceName change (.after {} ops) (Store.stored {} ops) answer t ∧
      (w.left attempt).objects.stores = Function.update w.objects.stores k t ∧
      ((∀ x, change (change x) = change x) → answer = .ok .created ∨ answer = .ok .updated →
        (w.left attempt).result attempt = .ok (.ok .unchanged)) := by
  intro attempt
  have hrecords : (w.objects.stores k).Records (Store.stored {} ops) :=
    hstore ▸ Store.records_after ops
  obtain ⟨answer, t, hresult, htried, htruthful, hleft⟩ :=
    createOrUpdate_tried name namespaceName hrecords hweather hblind
  refine ⟨answer, t, hresult, hstore ▸ htruthful, hleft, fun hidempotent hanswer => ?_⟩
  -- The second attempt reads what the first one wrote.
  have ht : (w.left attempt).objects.stores k = t := by rw [hleft, Function.update_self]
  obtain ⟨past, hrecords'⟩ := htried.records hrecords
  obtain ⟨answer', t', hresult', -, htruthful', -⟩ :=
    createOrUpdate_tried name namespaceName (ht ▸ hrecords')
      (World.weather_left hweather attempt) hblind
  have hreadable : t.readFailure = none := by
    rcases hanswer with rfl | rfl
    · exact htried.readable
    · exact htried.readable
  obtain ⟨x, hx, hdone⟩ := htruthful.written hblind hidempotent hanswer
  have hunchanged : answer' = .ok .unchanged := by
    refine htruthful'.unchanged.2 ⟨x, ?_, hdone⟩
    rw [ht, Store.get_of_reads hreadable, hx]
  rw [hresult', hunchanged]

/-- A world in which some operations were made on the secrets. -/
def served (ops : List (Store.Operation Secret)) : World Cluster where
  env := { clock := ⟨0, 0⟩, source := .queue [] }
  objects := { secrets := { store := .after {} ops } }

/-- A secret is cleared once; with a conflict ordered before, it stays as it is. -/
theorem createOrUpdate_truthful_served :
    let attempt := (createOrUpdate .secret "leaf" (some "system") Secret.cleared).run
    let ops : List (Store.Operation Secret) := [.insert (Sample.secret "leaf" [("tls.crt", [1])])]
    let refusing := served (ops ++ [.refuseWrites 1])
    (served ops).result attempt = .ok (.ok .updated) ∧
      ((served ops).left attempt).result attempt = .ok (.ok .unchanged) ∧
      ∃ e, refusing.result attempt = .ok (.error e) ∧
        ((refusing.left attempt).objects.stores .secret).objects =
          ((served ops).objects.stores .secret).objects := by
  intro attempt ops refusing
  have hblind : Blind Secret.cleared := fun _ _ => rfl
  obtain ⟨answer, _, hresult, -, -, hagain⟩ := createOrUpdate_truthful (k := .secret)
    (w := served ops) "leaf" (some "system") rfl .none hblind
  have hupdated : (served ops).result attempt = .ok (.ok .updated) := by rfl
  cases hresult.symm.trans hupdated
  refine ⟨hupdated, hagain (fun _ => rfl) (.inr rfl), ?_⟩
  obtain ⟨answer', t, hresult', htruthful, hleft, -⟩ := createOrUpdate_truthful (k := .secret)
    (w := refusing) "leaf" (some "system") rfl .none hblind
  have hrefused : refusing.result attempt = .ok (.error (.api 409 "Conflict")) := by rfl
  cases hresult'.symm.trans hrefused
  refine ⟨_, hrefused, ?_⟩
  rw [hleft, Function.update_self, (htruthful.error rfl).alike.objects]
  rfl

end Rotation

end TrustAnchor
