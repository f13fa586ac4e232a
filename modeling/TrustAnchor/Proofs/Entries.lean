import TrustAnchor.Authority.Basic
import TrustAnchor.Proofs.KeyMap
import TrustAnchor.Proofs.Utf8
import TrustAnchor.Resource.Secret

/-! The entries of an authority. What an authority was read from is what it is stored as, so a
secret that holds a readable authority is as it should be unless it holds something more. And what a
readable authority is stored as is read back as the same one. -/

namespace TrustAnchor

section Except

variable {ε δ α β : Type} {x : Except ε α} {f : α → Except ε β} {g : ε → δ} {a : α} {b : β} {e : ε}
  {d : δ}

theorem exists_of_bind_eq_ok (h : x >>= f = .ok b) : ∃ a, x = .ok a ∧ f a = .ok b := by
  cases x with
  | error e => cases h
  | ok a => exact ⟨a, rfl, h⟩

theorem bind_eq_error_iff :
    x >>= f = .error e ↔ x = .error e ∨ ∃ a, x = .ok a ∧ f a = .error e := by
  cases x with
  | error e' =>
    show Except.error e' = _ ↔ _
    simp
  | ok a =>
    show f a = _ ↔ _
    simp

theorem mapError_eq_ok_iff : x.mapError g = .ok a ↔ x = .ok a := by
  cases x <;> simp [Except.mapError]

theorem mapError_eq_error_iff : x.mapError g = .error d ↔ ∃ e, x = .error e ∧ g e = d := by
  cases x <;> simp [Except.mapError]

end Except

namespace Authority

variable {R : Reader} {a : Authority} {certificate key : String}
  {certificateBytes keyBytes : Bytes} {data : Option (KeyMap Bytes)}

theorem texts_of_ofPem (h : ofPem certificate key R = .ok a) :
    a.certificate = certificate ∧ a.key = key := by
  rw [ofPem] at h
  obtain ⟨_, -, h⟩ := exists_of_bind_eq_ok h
  obtain ⟨_, -, h⟩ := exists_of_bind_eq_ok h
  obtain ⟨_, -, h⟩ := exists_of_bind_eq_ok h
  cases h
  exact ⟨rfl, rfl⟩

/-- There are no entries, or one of the two is not there, or it is empty. -/
def Missing (data : Option (KeyMap Bytes)) : Prop :=
  data = none ∨ ∃ entries, data = some entries ∧
    ∃ name ∈ [certificateEntry, keyEntry], entries.get? name = none ∨ entries.get? name = some []

/-- Both entries are there, and neither is empty. -/
structure Full (data : Option (KeyMap Bytes)) (certificateBytes keyBytes : Bytes) : Prop where
  entries : ∃ entries, data = some entries ∧ entries.get? certificateEntry = some certificateBytes ∧
    entries.get? keyEntry = some keyBytes
  certificate : certificateBytes ≠ []
  key : keyBytes ≠ []

theorem missing_or_full (data : Option (KeyMap Bytes)) :
    Missing data ∨ ∃ certificateBytes keyBytes, Full data certificateBytes keyBytes := by
  cases data with
  | none => exact .inl (.inl rfl)
  | some entries =>
    by_cases hmissing : Missing (some entries)
    · exact .inl hmissing
    · have hthere (name) (hname : name ∈ [certificateEntry, keyEntry]) :
          ∃ bytes, entries.get? name = some bytes ∧ bytes ≠ [] := by
        match h : entries.get? name with
        | none => exact absurd (.inr ⟨entries, rfl, name, hname, .inl h⟩) hmissing
        | some [] => exact absurd (.inr ⟨entries, rfl, name, hname, .inr h⟩) hmissing
        | some (b :: rest) => exact ⟨_, rfl, List.cons_ne_nil _ _⟩
      obtain ⟨certificateBytes, hcertificate, hcertificate'⟩ :=
        hthere certificateEntry List.mem_cons_self
      obtain ⟨keyBytes, hkey, hkey'⟩ :=
        hthere keyEntry (List.mem_cons_of_mem _ List.mem_cons_self)
      exact .inr ⟨certificateBytes, keyBytes, ⟨entries, rfl, hcertificate, hkey⟩, hcertificate',
        hkey'⟩

/-- Full entries are decoded and read. -/
theorem ofEntries_of_full (H : Full data certificateBytes keyBytes) :
    ofEntries data R = (do
      let certificate ← (Text.Utf8.decode certificateBytes).mapError fun fault =>
        .unreadable (.certificateText fault)
      let key ← (Text.Utf8.decode keyBytes).mapError fun fault => .unreadable (.keyText fault)
      return some (← ofPem certificate key R)) := by
  obtain ⟨⟨entries, rfl, hcertificate, hkey⟩, hcertificate', hkey'⟩ := H
  have hfull : ¬ (certificateBytes.isEmpty || keyBytes.isEmpty) = true := by
    simp [hcertificate', hkey']
  simp only [ofEntries, hcertificate, hkey]
  rw [if_neg hfull]

theorem ofEntries_of_missing (H : Missing data) : ofEntries data R = .ok none := by
  rcases H with rfl | ⟨entries, rfl, name, hname, hmissing⟩
  · rfl
  · have hempty {bytes : Bytes} (hbytes : entries.get? name = some bytes) : bytes.isEmpty := by
      rcases hmissing with hnone | hempty
      · cases hnone.symm.trans hbytes
      · cases hempty.symm.trans hbytes
        rfl
    simp only [ofEntries]
    split
    · rename_i certificateBytes keyBytes hcertificate hkey
      refine if_pos (Bool.or_eq_true _ _ ▸ ?_)
      rcases List.mem_pair.1 hname with rfl | rfl
      · exact .inl (hempty hcertificate)
      · exact .inr (hempty hkey)
    · rfl

/-- What is read is read from full entries, which are its texts. -/
theorem full_of_ofEntries (h : ofEntries data R = .ok (some a)) :
    ∃ certificateBytes keyBytes, Full data certificateBytes keyBytes ∧
      Text.Utf8.decode certificateBytes = .ok a.certificate ∧
      Text.Utf8.decode keyBytes = .ok a.key ∧ ofPem a.certificate a.key R = .ok a := by
  rcases missing_or_full data with hmissing | ⟨certificateBytes, keyBytes, hfull⟩
  · rw [ofEntries_of_missing hmissing] at h
    cases h
  · rw [ofEntries_of_full hfull] at h
    obtain ⟨certificate, hcertificate, h⟩ := exists_of_bind_eq_ok h
    obtain ⟨key, hkey, h⟩ := exists_of_bind_eq_ok h
    obtain ⟨b, hb, h⟩ := exists_of_bind_eq_ok h
    cases h
    obtain ⟨rfl, rfl⟩ := texts_of_ofPem hb
    exact ⟨certificateBytes, keyBytes, hfull, mapError_eq_ok_iff.1 hcertificate,
      mapError_eq_ok_iff.1 hkey, hb⟩

/-- The entries that an authority was read from are its own. -/
theorem entries_of_ofEntries (h : ofEntries data R = .ok (some a)) :
    ∃ entries, data = some entries ∧
      entries.get? certificateEntry = some (Text.Utf8.encode a.certificate) ∧
      entries.get? keyEntry = some (Text.Utf8.encode a.key) := by
  obtain ⟨_, _, hfull, hcertificate, hkey, -⟩ := full_of_ofEntries h
  rw [Text.Utf8.encode_of_decode hcertificate, Text.Utf8.encode_of_decode hkey]
  exact hfull.entries

/-- What was read from entries can be read from its own texts. -/
theorem ofPem_of_ofEntries (h : ofEntries data R = .ok (some a)) :
    ofPem a.certificate a.key R = .ok a := by
  obtain ⟨_, _, -, -, -, hread⟩ := full_of_ofEntries h
  exact hread

theorem get?_toEntries_key (a : Authority) :
    a.toEntries.get? keyEntry = some (Text.Utf8.encode a.key) := rfl

/-- The bytes that clients trust are those stored for the certificate. -/
theorem get?_toEntries_certificate (a : Authority) :
    a.toEntries.get? certificateEntry = some a.bundle := rfl

/-- Nothing is read from empty texts. -/
theorem ne_empty_of_ofPem (h : ofPem certificate key R = .ok a) : certificate ≠ "" ∧ key ≠ "" := by
  rw [ofPem] at h
  obtain ⟨_, hkey, h⟩ := exists_of_bind_eq_ok h
  obtain ⟨encoded, hunwrap, h⟩ := exists_of_bind_eq_ok h
  obtain ⟨found, hcertificate, -⟩ := exists_of_bind_eq_ok h
  refine ⟨?_, ?_⟩
  · rintro rfl
    exact R.certificate_empty _ _ (mapError_eq_ok_iff.1 hunwrap) (mapError_eq_ok_iff.1 hcertificate)
  · rintro rfl
    exact R.key_empty _ (mapError_eq_ok_iff.1 hkey)

/-- What is stored of an authority is read as what its texts are read as. -/
theorem ofEntries_toEntries {b : Authority} (h : ofPem a.certificate a.key R = .ok b) :
    ofEntries (some a.toEntries) R = .ok (some b) := by
  obtain ⟨hcertificate, hkey⟩ := ne_empty_of_ofPem h
  have hfull : Full (some a.toEntries) a.bundle (Text.Utf8.encode a.key) :=
    ⟨⟨_, rfl, get?_toEntries_certificate a, get?_toEntries_key a⟩,
      Text.Utf8.encode_ne_nil hcertificate, Text.Utf8.encode_ne_nil hkey⟩
  rw [ofEntries_of_full hfull, bundle, Text.Utf8.decode_encode, Text.Utf8.decode_encode]
  show (ofPem a.certificate a.key R >>= fun b => .ok (some b)) = _
  rw [h]
  rfl

theorem get?_toEntries_of_ne {name : String} (hcertificate : name ≠ certificateEntry)
    (hkey : name ≠ keyEntry) : a.toEntries.get? name = none := by
  rw [KeyMap.get?, toEntries, List.lookup_cons, List.lookup_cons, beq_false_of_ne hcertificate,
    beq_false_of_ne hkey]
  rfl

/-- Further entries do not matter to who reads the authority. -/
theorem ofEntries_insert_of_ne {entries : KeyMap Bytes} {name : String} {x : Bytes}
    (hcertificate : certificateEntry ≠ name) (hkey : keyEntry ≠ name) :
    ofEntries (some (entries.insert name x)) R = ofEntries (some entries) R := by
  simp only [ofEntries, KeyMap.get?_insert_of_ne hcertificate, KeyMap.get?_insert_of_ne hkey]

end Authority

namespace Secret

open Authority

variable {R : Reader} {a : Authority} {x : Secret}

/-- There are no entries but those that authorities have, and none that is given as text. -/
structure Bare (x : Secret) : Prop where
  stringData : x.stringData = none
  data : ∀ {entries}, x.data = some entries →
    ∀ name, name ≠ certificateEntry → name ≠ keyEntry → entries.get? name = none

theorem holding_eq_self_iff_data :
    x.holding a = x ↔ x.data = some a.toEntries ∧ x.stringData = none := by
  constructor
  · intro h
    rw [← h]
    exact ⟨rfl, rfl⟩
  · rintro ⟨hdata, hstringData⟩
    obtain ⟨metadata, data, stringData, type, immutable⟩ := x
    cases hdata
    cases hstringData
    rfl

theorem bare_of_data (hdata : x.data = some a.toEntries) (hstringData : x.stringData = none) :
    x.Bare where
  stringData := hstringData
  data h name hcertificate hkey := by
    cases hdata.symm.trans h
    exact get?_toEntries_of_ne hcertificate hkey

/-- Storing the authority that a secret holds changes the secret unless it is bare. -/
theorem holding_eq_self_iff (h : ofEntries x.data R = .ok (some a)) : x.holding a = x ↔ x.Bare := by
  rw [holding_eq_self_iff_data]
  constructor
  · rintro ⟨hdata, hstringData⟩
    exact bare_of_data hdata hstringData
  · intro hbare
    obtain ⟨entries, hdata, hcertificate, hkey⟩ := entries_of_ofEntries h
    refine ⟨?_, hbare.stringData⟩
    rw [hdata]
    refine congrArg some (KeyMap.ext_get? fun name => ?_)
    by_cases hname : name = certificateEntry
    · rw [hname, hcertificate, get?_toEntries_certificate]
      rfl
    · by_cases hname' : name = keyEntry
      · rw [hname', hkey, get?_toEntries_key]
      · rw [hbare.data hdata name hname hname', get?_toEntries_of_ne hname hname']

end Secret

end TrustAnchor
