import TrustAnchor.Resource.Kind
import Mathlib.Tactic.Common

/-! Putting a bundle into a webhook configuration. The entries that are reached by a service carry
it from then on, nothing else changes, and the answer is whether one of them had to be changed. So
of several bundles that are put in one after the other the last one counts. -/

namespace TrustAnchor

namespace Webhook

variable {a bundle : Bytes} {w : Webhook}

/-- The entry with the bundle, if it is reached by a service. -/
def trusting (bundle : Bytes) (w : Webhook) : Webhook :=
  if w.service.isSome then { w with bundle := some bundle } else w

/-- The entry is reached by a service and does not carry the bundle. -/
def Lacks (bundle : Bytes) (w : Webhook) : Prop := w.service.isSome ∧ w.bundle ≠ some bundle

instance : Decidable (w.Lacks bundle) := inferInstanceAs (Decidable (_ ∧ _))

theorem not_lacks_iff : ¬ w.Lacks bundle ↔ (w.service.isSome → w.bundle = some bundle) := by
  simp [Lacks]

theorem trusting_of_served (h : w.service.isSome) :
    w.trusting bundle = { w with bundle := some bundle } := if_pos h

theorem trusting_of_not_served (h : w.service = none) : w.trusting bundle = w :=
  if_neg (by simp [h])

/-- An entry that lacks nothing stays as it is. -/
theorem trusting_of_not_lacks (h : ¬ w.Lacks bundle) : w.trusting bundle = w := by
  cases hservice : w.service with
  | none => exact trusting_of_not_served hservice
  | some service =>
    have hserved : w.service.isSome := by rw [hservice]; rfl
    rw [trusting_of_served hserved, ← not_lacks_iff.1 h hserved]

@[simp] theorem service_trusting : (w.trusting bundle).service = w.service := by
  rw [trusting]
  split <;> rfl

theorem not_lacks_trusting : ¬ (w.trusting bundle).Lacks bundle := by
  rw [not_lacks_iff, service_trusting]
  intro hserved
  rw [trusting_of_served hserved]

/-- The later of two bundles takes the place of the earlier one. -/
@[simp] theorem trusting_trusting : (w.trusting a).trusting bundle = w.trusting bundle := by
  cases hservice : w.service with
  | none =>
    have hfirst : w.trusting a = w := trusting_of_not_served hservice
    rw [hfirst]
  | some service =>
    have hserved : w.service.isSome := by rw [hservice]; rfl
    rw [trusting_of_served (w := w.trusting a) (by rwa [service_trusting]),
      trusting_of_served hserved, trusting_of_served hserved]

end Webhook

namespace WebhookConfiguration

open Webhook

variable {bundle : Bytes} {entries : List Webhook} {c x : WebhookConfiguration}
  {f : Webhook → Webhook}

/-- Every entry is changed in its place; a missing list stays missing. -/
def overEntries (f : Webhook → Webhook) (x : WebhookConfiguration) : WebhookConfiguration :=
  { x with webhooks := x.webhooks.map (List.map f) }

/-- What can be changed of the entries is what is listed of them. -/
@[simp] theorem entries_overEntries : (x.overEntries f).entries = x.entries.map f := by
  simp only [entries, overEntries]
  cases x.webhooks <;> rfl

theorem overEntries_overEntries {g : Webhook → Webhook} :
    (x.overEntries f).overEntries g = x.overEntries fun w => g (f w) := by
  simp only [overEntries, Option.map_map]
  congr 2
  exact funext fun entries => List.map_map ..

theorem overEntries_of_fixed (h : ∀ w ∈ x.entries, f w = w) : x.overEntries f = x := by
  obtain ⟨metadata, webhooks⟩ := x
  cases webhooks with
  | none => rfl
  | some entries =>
    have hentries : entries.map f = entries.map id := List.map_congr_left h
    rw [overEntries, Option.map_some, hentries, List.map_id]

def trusting (bundle : Bytes) (x : WebhookConfiguration) : WebhookConfiguration :=
  { x with webhooks := x.webhooks.map (List.map (Webhook.trusting bundle)) }

theorem trusting_eq : x.trusting bundle = x.overEntries (Webhook.trusting bundle) := rfl

/-! ## What an injection leaves, and what it answers -/

theorem injectEntries_cons {w : Webhook} : injectEntries bundle (w :: entries) =
    (w.trusting bundle :: (injectEntries bundle entries).1,
      decide (w.Lacks bundle) || (injectEntries bundle entries).2) := by
  by_cases hlacks : w.Lacks bundle
  · have hwrites : (w.service.isSome && w.bundle ≠ some bundle) = true := by
      simpa [Lacks] using hlacks
    rw [injectEntries, trusting_of_served hlacks.1]
    simp only [if_pos hwrites, hlacks, decide_true, Bool.true_or]
  · have hkeeps : ¬ (w.service.isSome && w.bundle ≠ some bundle) = true := by
      simpa [Lacks] using hlacks
    rw [injectEntries, trusting_of_not_lacks hlacks]
    simp only [if_neg hkeeps, hlacks, decide_false, Bool.false_or]

theorem injectEntries_eq :
    (injectEntries bundle entries).1 = entries.map (Webhook.trusting bundle) := by
  induction entries with
  | nil => rfl
  | cons w rest ih => rw [injectEntries_cons, List.map_cons, ih]

theorem injectEntries_changed :
    (injectEntries bundle entries).2 = true ↔ ∃ w ∈ entries, w.Lacks bundle := by
  induction entries with
  | nil => simp [injectEntries]
  | cons w rest ih => simp [injectEntries_cons, ih]

theorem inject_eq : (x.inject bundle).1 = x.trusting bundle := by
  rw [inject, trusting]
  split
  · rename_i h
    obtain ⟨metadata, webhooks⟩ := x
    cases h
    rfl
  · rename_i entries h
    rw [h, Option.map_some, ← injectEntries_eq]

theorem inject_changed : (c.inject bundle).2 = true ↔ ∃ w ∈ c.entries, w.Lacks bundle := by
  rw [inject, WebhookConfiguration.entries]
  split
  · rename_i h
    simp [h]
  · rename_i entries h
    rw [h]
    exact injectEntries_changed

theorem inSync_iff :
    c.inSync bundle ↔ ∀ w ∈ c.entries, w.service.isSome → w.bundle = some bundle := by
  simp only [inSync, List.all_eq_true, List.mem_filter, decide_eq_true_eq, and_imp]

theorem inSync_iff_not_lacks : c.inSync bundle ↔ ∀ w ∈ c.entries, ¬ w.Lacks bundle := by
  simp only [inSync_iff, not_lacks_iff]

/-- A configuration has to be written just if it is not in order. -/
theorem inject_changed_iff : (c.inject bundle).2 = true ↔ c.inSync bundle = false := by
  rw [inject_changed, ← Bool.not_eq_true, inSync_iff_not_lacks]
  simp only [not_forall, not_not, exists_prop]

@[simp] theorem metadata_inject : Resource.metadata (c.inject bundle).1 = Resource.metadata c := by
  rw [inject_eq]
  rfl

theorem entries_inject :
    (c.inject bundle).1.entries = c.entries.map (Webhook.trusting bundle) := by
  rw [inject_eq, trusting_eq, entries_overEntries]

theorem inSync_inject : (c.inject bundle).1.inSync bundle := by
  rw [inSync_iff_not_lacks, entries_inject, List.forall_mem_map]
  exact fun _ _ => not_lacks_trusting

/-- A configuration that need not be written is in order. -/
theorem inSync_of_unchanged (h : (c.inject bundle).2 = false) : c.inSync bundle := by
  by_contra hsync
  rw [inject_changed_iff.2 (Bool.not_eq_true _ ▸ hsync)] at h
  cases h

/-- A configuration that is in order need not be written. -/
theorem unchanged_of_inSync (H : ∀ w ∈ c.entries, w.service.isSome → w.bundle = some bundle) :
    (c.inject bundle).2 = false := by
  rw [← Bool.not_eq_true, inject_changed_iff, inSync_iff.2 H]
  simp

theorem inject_of_unchanged (h : (c.inject bundle).2 = false) : (c.inject bundle).1 = c := by
  rw [inject_eq, trusting_eq]
  apply overEntries_of_fixed
  intro w hw
  exact trusting_of_not_lacks (inSync_iff_not_lacks.1 (inSync_of_unchanged h) w hw)

theorem inject_inject {a : Bytes} : ((c.inject a).1.inject bundle).1 = (c.inject bundle).1 := by
  simp only [inject_eq, trusting_eq, overEntries_overEntries, trusting_trusting]

/-! ## Several injections -/

/-- Puts bundles in one after the other, and says of each whether any entry had another one. -/
def injectAll (c : WebhookConfiguration) : List Bytes → WebhookConfiguration × List Bool
  | [] => (c, [])
  | bundle :: rest =>
    let (c, changed) := c.inject bundle
    let (c, answers) := c.injectAll rest
    (c, changed :: answers)

variable {bundles earlier later : List Bytes}

theorem injectAll_append : c.injectAll (earlier ++ later) =
    (((c.injectAll earlier).1.injectAll later).1,
      (c.injectAll earlier).2 ++ ((c.injectAll earlier).1.injectAll later).2) := by
  induction earlier generalizing c with
  | nil => rfl
  | cons a earlier ih => simp only [List.cons_append, injectAll, ih]

theorem length_injectAll : (c.injectAll bundles).2.length = bundles.length := by
  induction bundles generalizing c with
  | nil => rfl
  | cons a bundles ih => simp only [injectAll, List.length_cons, ih]

/-- The earlier bundles leave no trace behind a later one. -/
theorem inject_injectAll : ((c.injectAll earlier).1.inject bundle).1 = (c.inject bundle).1 := by
  induction earlier generalizing c with
  | nil => rfl
  | cons a earlier ih =>
    simp only [injectAll]
    rw [ih, inject_inject]

theorem injectAll_last : (c.injectAll (earlier ++ [bundle])).1 = (c.inject bundle).1 := by
  rw [injectAll_append]
  exact inject_injectAll

theorem answer_injectAll : (c.injectAll (earlier ++ bundle :: later)).2[earlier.length]? =
    some (decide (∃ w ∈ (c.injectAll earlier).1.entries, w.Lacks bundle)) := by
  have hanswer : ((c.injectAll earlier).1.inject bundle).2 =
      decide (∃ w ∈ (c.injectAll earlier).1.entries, w.Lacks bundle) := by
    rw [Bool.eq_iff_iff, inject_changed, decide_eq_true_eq]
  rw [injectAll_append, ← hanswer, List.getElem?_append_right (Nat.le_of_eq length_injectAll),
    length_injectAll, Nat.sub_self]
  rfl

/-! ## All that an injection does -/

/-- The one configuration is the other with a bundle put in. -/
structure Injected (bundle : Bytes) (c d : WebhookConfiguration) : Prop where
  metadata : d.metadata = c.metadata
  /-- A missing list stays missing. -/
  listed : d.webhooks.isSome = c.webhooks.isSome
  length : d.entries.length = c.entries.length
  served : ∀ {i : Nat} {w : Webhook}, c.entries[i]? = some w → w.service.isSome →
    d.entries[i]? = some { w with bundle := some bundle }
  others : ∀ {i : Nat} {w : Webhook}, c.entries[i]? = some w → w.service = none →
    d.entries[i]? = some w

theorem injected_inject : Injected bundle c (c.inject bundle).1 where
  metadata := metadata_inject
  listed := by rw [inject_eq, trusting, Option.isSome_map]
  length := by rw [entries_inject, List.length_map]
  served h hserved := by
    rw [entries_inject, List.getElem?_map, h, Option.map_some, trusting_of_served hserved]
  others h hserved := by
    rw [entries_inject, List.getElem?_map, h, Option.map_some, trusting_of_not_served hserved]

/-- Of each kind of configurations and however its entries look: a bundle is put in just if it is
not in yet, and nothing but bundles of entries with a service changes. Of several bundles the last
one counts, and each is asked about at its turn. Where the entries are the same, the kind does not
matter; and the entries that are changed are those that are listed. -/
theorem inject_exact (k : WebhookKind) (c : (Kind.webhook k).Object) :
    (∀ bundle, ((c.inject bundle).2 = true ↔ c.inSync bundle = false) ∧
      (c.inject bundle).1.inSync bundle = true ∧
      ((c.inject bundle).2 = false → (c.inject bundle).1 = c) ∧
      Injected bundle c (c.inject bundle).1) ∧
    (∀ earlier bundle, (c.injectAll (earlier ++ [bundle])).1 = (c.inject bundle).1) ∧
    (∀ bundles, (c.injectAll bundles).2.length = bundles.length) ∧
    (∀ earlier bundle later, (c.injectAll (earlier ++ bundle :: later)).2[earlier.length]? =
      some (decide (∃ w ∈ (c.injectAll earlier).1.entries, w.Lacks bundle))) ∧
    (∀ (k' : WebhookKind) (d : (Kind.webhook k').Object) bundle, c.entries = d.entries →
      (c.inject bundle).2 = (d.inject bundle).2 ∧ c.inSync bundle = d.inSync bundle ∧
        (c.inject bundle).1.entries = (d.inject bundle).1.entries) ∧
    (∀ bundle, (c.inject bundle).1 = c.overEntries (Webhook.trusting bundle)) ∧
    ∀ f, (c.overEntries f).entries = c.entries.map f := by
  refine ⟨fun bundle => ⟨inject_changed_iff, inSync_inject, inject_of_unchanged, injected_inject⟩,
    fun _ _ => injectAll_last, fun _ => length_injectAll, fun _ _ _ => answer_injectAll,
    fun k' d bundle hentries => ⟨?_, ?_, ?_⟩, fun _ => inject_eq, fun _ => entries_overEntries⟩
  · rw [Bool.eq_iff_iff, inject_changed, inject_changed, hentries]
  · rw [inSync, inSync, hentries]
  · rw [entries_inject, entries_inject, hentries]

/-- An entry without a bundle, one with an old bundle and an address besides its service, and one
that is not reached by a service. -/
def assorted : WebhookConfiguration where
  metadata := { name := some "assorted" }
  webhooks := some [{ name := "new", service := some { name := "webhook" } },
    { name := "old", service := some { name := "webhook" }, bundle := some [1],
      url := some "inside" },
    { name := "other", bundle := some [2], url := some "elsewhere" }]

/-- Two bundles are put in, and the second one a second time; a configuration of the other kind with
the same entries but without a name takes them likewise. -/
theorem inject_exact_assorted :
    (assorted.injectAll [[1], [3], [3]]).2 = [true, true, false] ∧
      (assorted.injectAll [[1], [3], [3]]).1 = (assorted.inject [3]).1 ∧
      ((assorted.inject [3]).1.inject [3]).1 = (assorted.inject [3]).1 ∧
      (assorted.inject [3]).1.entries[2]? = assorted.entries[2]? ∧
      ({ assorted with metadata := {} }.inject [3]).1.entries =
        (assorted.inject [3]).1.entries := by
  obtain ⟨hfirst, hlast, -, -, hkinds, -⟩ := inject_exact .mutating assorted
  obtain ⟨hagain, -⟩ := inject_exact .mutating (assorted.inject [3]).1
  obtain ⟨-, -, hunchanged, -⟩ := hagain [3]
  obtain ⟨-, -, -, hinjected⟩ := hfirst [3]
  obtain ⟨-, -, hentries⟩ := hkinds .validating { assorted with metadata := {} } [3] rfl
  exact ⟨by decide, hlast [[1], [3]] [3], hunchanged (by decide), hinjected.others rfl rfl,
    hentries.symm⟩

end WebhookConfiguration

end TrustAnchor
