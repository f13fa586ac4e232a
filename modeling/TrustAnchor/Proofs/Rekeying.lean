import TrustAnchor.Proofs.Entries
import TrustAnchor.Proofs.Twins

/-! Replacing private keys. A rekeying puts other keys in the place of those that can be read, no
two by the same, wherever the secret of the authority or a new authority carries one; certificates
and all other secrets stay. What is read from a rekeyed secret is the rekeyed authority, what is
stored of a rekeyed authority is the rekeyed secret, and a secret has to be written exactly if it
would have to be without the rekeying. So a pass is its own twin. -/

namespace TrustAnchor

open Script (Attempt)

/-- A text that can be read as a private key. -/
abbrev KeyText (R : Authority.Reader) := { text : String // R.key text = .ok () }

structure Rekeying (R : Authority.Reader) where
  key : KeyText R → KeyText R
  injective : Function.Injective key

namespace Rekeying

variable {R : Authority.Reader} (ρ : Rekeying R)

/-- A text that is no key stays as it is. -/
def text (s : String) : String :=
  if h : R.key s = .ok () then (ρ.key ⟨s, h⟩).1 else s

def bytes (b : Bytes) : Bytes :=
  match Text.Utf8.decode b with
  | .ok s => Text.Utf8.encode (ρ.text s)
  | .error _ => b

def authority (a : Authority) : Authority := { a with key := ρ.text a.key }

/-- Changes every entry but the certificate. -/
def besidesCertificate {α : Type} (f : α → α) (name : String) (x : α) : α :=
  if name = Authority.certificateEntry then x else f x

def entries (m : KeyMap Bytes) : KeyMap Bytes := m.mapEntries (besidesCertificate ρ.bytes)

/-- The secret with all its keys replaced. -/
def contents (x : Secret) : Secret :=
  { x with
    data := x.data.map ρ.entries
    stringData := x.stringData.map (·.mapEntries (besidesCertificate ρ.text)) }

/-- Keys are replaced in the secret of one name only. -/
def secret (name : String) (x : Secret) : Secret :=
  if Resource.anyName x = name then ρ.contents x else x

variable {ρ} {name : String} {a : Authority} {x y : Secret} {s t : String} {b c : Bytes}

/-! ## Texts and bytes -/

theorem key_text : R.key (ρ.text s) = R.key s := by
  rw [text]
  split
  · rename_i h
    exact (ρ.key ⟨s, h⟩).2.trans h.symm
  · rfl

theorem text_injective : Function.Injective ρ.text := by
  intro s t h
  have hkey : R.key s = R.key t := by
    rw [← key_text (ρ := ρ) (s := s), h, key_text]
  by_cases hs : R.key s = .ok ()
  · have ht := hkey.symm.trans hs
    rw [text, text, dif_pos hs, dif_pos ht] at h
    exact congrArg Subtype.val (ρ.injective (Subtype.ext h))
  · have ht := hkey ▸ hs
    rwa [text, text, dif_neg hs, dif_neg ht] at h

theorem decode_bytes : Text.Utf8.decode (ρ.bytes b) = (Text.Utf8.decode b).map ρ.text := by
  rw [bytes]
  cases h : Text.Utf8.decode b with
  | ok s => exact Text.Utf8.decode_encode _
  | error fault => exact h

theorem bytes_encode : ρ.bytes (Text.Utf8.encode s) = Text.Utf8.encode (ρ.text s) := by
  rw [bytes, Text.Utf8.decode_encode]

theorem bytes_injective : Function.Injective ρ.bytes := by
  intro b c h
  have hdecode := congrArg Text.Utf8.decode h
  rw [decode_bytes, decode_bytes] at hdecode
  cases hb : Text.Utf8.decode b with
  | error fault =>
    cases hc : Text.Utf8.decode c with
    | error fault' => rwa [bytes, bytes, hb, hc] at h
    | ok t =>
      rw [hb, hc] at hdecode
      cases hdecode
  | ok s =>
    cases hc : Text.Utf8.decode c with
    | error fault =>
      rw [hb, hc] at hdecode
      cases hdecode
    | ok t =>
      rw [hb, hc] at hdecode
      have hst : s = t := text_injective (Except.ok.inj hdecode)
      rw [← Text.Utf8.encode_of_decode hb, ← Text.Utf8.encode_of_decode hc, hst]

theorem isEmpty_bytes : (ρ.bytes b).isEmpty = b.isEmpty := by
  have htext : ρ.text "" = "" := dif_neg (R.key_empty ())
  have hnil : ρ.bytes [] = [] := congrArg Text.Utf8.encode htext
  rw [Bool.eq_iff_iff, List.isEmpty_iff, List.isEmpty_iff]
  exact ⟨fun h => bytes_injective (h.trans hnil.symm), fun h => h ▸ hnil⟩

/-! ## Authorities and their entries -/

theorem ofPem_text : Authority.ofPem s (ρ.text t) R = (Authority.ofPem s t R).map ρ.authority := by
  rw [Authority.ofPem, Authority.ofPem, key_text]
  cases R.key t with
  | error fault => rfl
  | ok =>
    dsimp only [Except.mapError, bind, Except.bind]
    cases readPem s R with
    | error e => rfl
    | ok encoded =>
      dsimp only
      cases R.certificate encoded <;> rfl

/-- From rekeyed entries the rekeyed authority is read. -/
theorem ofEntries_entries {data : Option (KeyMap Bytes)} :
    Authority.ofEntries (data.map ρ.entries) R =
      (Authority.ofEntries data R).map (Option.map ρ.authority) := by
  cases data with
  | none => rfl
  | some m =>
    have hcertificate : (ρ.entries m).get? Authority.certificateEntry =
        m.get? Authority.certificateEntry := by
      rw [entries, KeyMap.get?_mapEntries]
      exact congrFun Option.map_id _
    have hkey : (ρ.entries m).get? Authority.keyEntry =
        (m.get? Authority.keyEntry).map ρ.bytes := KeyMap.get?_mapEntries
    simp only [Option.map_some, Authority.ofEntries, hcertificate, hkey]
    cases m.get? Authority.certificateEntry with
    | none => rfl
    | some certificate =>
      cases m.get? Authority.keyEntry with
      | none => rfl
      | some key =>
        simp only [Option.map_some, isEmpty_bytes, decode_bytes]
        split
        · rfl
        · cases Text.Utf8.decode certificate with
          | error fault => rfl
          | ok s =>
            cases Text.Utf8.decode key with
            | error fault => rfl
            | ok t =>
              show (Authority.ofPem s (ρ.text t) R >>= _) =
                Except.map _ (Authority.ofPem s t R >>= _)
              rw [ofPem_text]
              cases Authority.ofPem s t R <;> rfl

/-- What is stored of a rekeyed authority are the rekeyed entries. -/
theorem toEntries_authority : (ρ.authority a).toEntries = ρ.entries a.toEntries := by
  refine KeyMap.ext ?_
  show [(Authority.certificateEntry, Text.Utf8.encode a.certificate),
    (Authority.keyEntry, Text.Utf8.encode (ρ.text a.key))] = _
  rw [← bytes_encode]
  rfl

/-! ## Secrets -/

theorem besidesCertificate_injective {α : Type} {f : α → α} (hf : Function.Injective f)
    (name : String) : Function.Injective (besidesCertificate f name) := by
  intro x y h
  rw [besidesCertificate, besidesCertificate] at h
  split at h
  · exact h
  · exact hf h

theorem contents_injective : Function.Injective ρ.contents := by
  rintro ⟨metadata, data, stringData, type, immutable⟩
    ⟨metadata', data', stringData', type', immutable'⟩ h
  simp only [contents, Secret.mk.injEq] at h
  obtain ⟨rfl, hdata, hstringData, rfl, rfl⟩ := h
  have hentries : Function.Injective ρ.entries :=
    KeyMap.mapEntries_injective (besidesCertificate_injective bytes_injective)
  have htexts : Function.Injective (KeyMap.mapEntries (besidesCertificate ρ.text)) :=
    KeyMap.mapEntries_injective (besidesCertificate_injective text_injective)
  rw [Option.map_injective hentries hdata, Option.map_injective htexts hstringData]

theorem metadata_secret : Resource.metadata (ρ.secret name x) = Resource.metadata x := by
  rw [secret]
  split <;> rfl

theorem secret_injective : Function.Injective (ρ.secret name) := by
  intro x y h
  have hmetadata : Resource.metadata x = Resource.metadata y :=
    metadata_secret.symm.trans ((congrArg Resource.metadata h).trans metadata_secret)
  rw [secret, secret, Resource.anyName_of_metadata hmetadata] at h
  split at h
  · exact contents_injective h
  · exact h

theorem secret_withVersion {n : Nat} :
    ρ.secret name (Resource.withVersion x n) = Resource.withVersion (ρ.secret name x) n := by
  rw [secret, secret, Resource.anyName_withVersion]
  split <;> rfl

/-- Storing the rekeyed authority in the rekeyed secret gives the rekeyed secret. -/
theorem secret_holding (h : Resource.anyName x = name) :
    (ρ.secret name x).holding (ρ.authority a) = ρ.secret name (x.holding a) := by
  have h' : Resource.anyName (x.holding a) = name := h
  rw [secret, secret, if_pos h, if_pos h', Secret.holding, toEntries_authority]
  rfl

theorem secret_named {other : String} {namespaceName : Option String} :
    ρ.secret name (Resource.named other namespaceName) = Resource.named other namespaceName := by
  rw [secret]
  split <;> rfl

theorem hasContent_secret : (ρ.secret name x).hasContent = x.hasContent := by
  rw [secret]
  split
  · simp only [Secret.hasContent, contents, Option.any_map, entries,
      KeyMap.isEmpty_mapEntries]
  · rfl

theorem cleared_secret : (ρ.secret name x).cleared = ρ.secret name x.cleared := by
  have hname : Resource.anyName x.cleared = Resource.anyName x := rfl
  rw [secret, secret, hname]
  split <;> rfl

theorem ofEntries_secret (h : Resource.anyName x = name) :
    Authority.ofEntries (ρ.secret name x).data R =
      (Authority.ofEntries x.data R).map (Option.map ρ.authority) := by
  rw [secret, if_pos h]
  exact ofEntries_entries

/-- The rekeying of the secret of a name, and of new authorities. -/
def retouching (ρ : Rekeying R) (name : String) : Retouching where
  secret := ρ.secret name
  authority := ρ.authority
  retouches := ⟨fun _ => metadata_secret, fun _ _ => secret_withVersion⟩

@[simp] theorem object_retouching : (ρ.retouching name).object .secret = ρ.secret name := rfl

end Rekeying

/-! ## The steps of a pass -/

namespace Rotation

open Rekeying

variable {R : Authority.Reader} {ρ : Rekeying R} {horizon : Nat}
  {name other namespaceName : String} {a : Authority} {found : Option Authority} {now : Instant}
  {s : Schedule}

theorem load_twins : (load name R).run.Twins (ρ.retouching name)
    (Except.map (Option.map ρ.authority)) (load name R).run := by
  refine .ask fun answer h => ?_
  match answer with
  | .error text => exact .stop _
  | .ok (.error e) => exact .done rfl
  | .ok (.ok none) => exact .done rfl
  | .ok (.ok (some x)) =>
    show (ofExcept ((Authority.ofEntries x.data R).mapError Error.authority) : Attempt _).run.Twins
      _ _ (ofExcept ((Authority.ofEntries (ρ.secret name x).data R).mapError Error.authority) :
        Attempt _).run
    rw [ofEntries_secret h]
    cases Authority.ofEntries x.data R <;> exact .done rfl

/-- How long an authority lasts does not depend on its key. -/
theorem generate_twins : (generate now).run.Twins (ρ.retouching name)
    (Except.map fun (a, d) => (ρ.authority a, d)) (generate now).run := by
  refine .ask fun answer _ => ?_
  match answer with
  | .error text => exact .stop _
  | .ok (.error e) => exact .done rfl
  | .ok (.ok a) =>
    show ((ofExcept ((a.remaining a.notBefore).mapError Error.authority) : Attempt Duration) >>=
        fun d => pure (a, d)).run.Twins _ _
      ((ofExcept ((a.remaining a.notBefore).mapError Error.authority) : Attempt Duration) >>=
        fun d => pure (ρ.authority a, d)).run
    cases a.remaining a.notBefore <;> exact .done rfl

theorem choose_twins : (choose found now).run.Twins (ρ.retouching name)
    (Except.map fun (a, rest) => (ρ.authority a, rest))
    (choose (found.map ρ.authority) now).run := by
  have hnew (reason : RegenerateReason) :
      (generate now >>= fun (a, d) => pure (a, some reason, d)).run.Twins (ρ.retouching name)
        (Except.map fun (a, rest) => (ρ.authority a, rest))
        (generate now >>= fun (a, d) => pure (a, some reason, d)).run :=
    generate_twins.attempt fun _ => .done rfl
  cases found with
  | none => exact hnew .missing
  | some a =>
    have hremaining : (ρ.authority a).remaining now = a.remaining now := rfl
    simp only [choose, Decision.at, Option.map_some, hremaining]
    cases a.remaining now with
    | ok d => exact .done rfl
    | error e => exact hnew .expired

theorem persist_twins : (persist horizon name namespaceName a s).run.Twins (ρ.retouching name)
    (Except.map id) (persist horizon name namespaceName (ρ.authority a) s).run := by
  rw [persist_eq, persist_eq, Except.map_id]
  refine Retry.onConflict_twins fun _ => Amendment.attempt_twins fun found h => ?_
  cases found with
  | none =>
    have hnamed : ((Resource.named name (some namespaceName) : Secret).holding (ρ.authority a)) =
        ρ.secret name ((Resource.named name (some namespaceName) : Secret).holding a) := by
      rw [← secret_holding Resource.anyName_named, secret_named]
    exact congrArg (Plan.write · Written.created) hnamed
  | some x =>
    have hholding := secret_holding (ρ := ρ) (a := a) (h x rfl)
    simp only [storing, creation, Option.map_some, object_retouching, hholding,
      secret_injective.eq_iff]
    split <;> rfl

theorem invalidateLeaf_twins : (invalidateLeaf horizon other s).run.Twins (ρ.retouching name)
    (Except.map id) (invalidateLeaf horizon other s).run := by
  rw [invalidateLeaf_eq, Except.map_id]
  refine (Retry.onConflict_twins fun _ => Amendment.attempt_twins fun found _ => ?_).bind
    fun _ => .done rfl
  cases found with
  | none => rfl
  | some x =>
    simp only [clearing, Option.map_some, object_retouching, hasContent_secret, cleared_secret]
    split <;> rfl

theorem withdraw_twins {c : Controller} {persistence : Written} :
    (withdraw horizon c persistence).run.Twins (ρ.retouching name) (Except.map id)
      (withdraw horizon c persistence).run := by
  cases persistence with
  | updated => exact invalidateLeaf_twins.attempt fun _ => .done rfl
  | created | unchanged => exact .done rfl

/-- A pass does not notice that keys were replaced. -/
theorem pass_twins (horizon : Nat) (c : Controller) (ρ : Rekeying c.reader) :
    (pass horizon c).run.Twins (ρ.retouching c.caSecret) id (pass horizon c).run := by
  have hnow : (liftM (Script.request .now) : Attempt Instant).run.Twins
      (ρ.retouching c.caSecret) (Except.map id) (liftM (Script.request .now) : Attempt _).run := by
    rw [Except.map_id]
    exact (now_asks_of trivial).twins
  rw [pass_eq, ← Except.map_id]
  refine hnow.attempt fun now => load_twins.attempt fun found => ?_
  refine choose_twins.attempt fun (a, regenerated, d) => ?_
  refine propagate_twins.attempt fun propagated => persist_twins.attempt fun persistence => ?_
  exact withdraw_twins.attempt fun leaf => .done rfl

end Rotation

end TrustAnchor
