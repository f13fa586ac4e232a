import TrustAnchor.Proofs.Repetition

/-! What stored entries are read as: nothing, an authority, or an error that says what is wrong
with them. Nothing is read just where an entry is missing or empty, and an authority is read just as
it was stored, byte for byte. This holds whatever texts are taken for keys and for certificates. -/

namespace TrustAnchor

namespace Authority

variable {R : Reader} {a : Authority} {certificate key : String}
  {certificateBytes keyBytes : Bytes} {data : Option (KeyMap Bytes)} {e : AuthorityError}

/-- What is wrong with two texts that hold no authority. The certificate counts only if the key is
good. -/
inductive Misread (R : Reader) (certificate key : String) : MaterialFault → Prop
  | key {fault : PrivateKey.Fault} : R.key key = .error fault →
    Misread R certificate key (.key fault)
  | framing {fault : Pem.Fault} : R.key key = .ok () → R.unwrap certificate = .error fault →
    Misread R certificate key (.framing fault)
  | certificate {encoded : Bytes} {fault : Certificate.Fault} : R.key key = .ok () →
    R.unwrap certificate = .ok encoded → R.certificate encoded = .error fault →
    Misread R certificate key (.certificate fault)

/-- What is wrong with two entries that hold no authority. The key counts only if the certificate is
text, and what the texts say counts only if both are text. -/
inductive Unfit (R : Reader) (certificateBytes keyBytes : Bytes) : MaterialFault → Prop
  | certificateText {fault : Text.Utf8.Fault} : Text.Utf8.decode certificateBytes = .error fault →
    Unfit R certificateBytes keyBytes (.certificateText fault)
  | keyText {certificate : String} {fault : Text.Utf8.Fault} :
    Text.Utf8.decode certificateBytes = .ok certificate → Text.Utf8.decode keyBytes = .error fault →
    Unfit R certificateBytes keyBytes (.keyText fault)
  | texts {certificate key : String} {fault : MaterialFault} :
    Text.Utf8.decode certificateBytes = .ok certificate → Text.Utf8.decode keyBytes = .ok key →
    Misread R certificate key fault → Unfit R certificateBytes keyBytes fault

theorem ofPem_eq_error_iff :
    ofPem certificate key R = .error e ↔
      ∃ fault, e = .unreadable fault ∧ Misread R certificate key fault := by
  simp only [ofPem, readPem, bind_eq_error_iff, mapError_eq_error_iff, mapError_eq_ok_iff]
  constructor
  · rintro (⟨fault, hkey, rfl⟩ | ⟨⟨⟩, hkey, ⟨fault, hframing, rfl⟩ | ⟨encoded, hframing,
      ⟨fault, hcertificate, rfl⟩ | ⟨_, -, hnever⟩⟩⟩)
    · exact ⟨_, rfl, .key hkey⟩
    · exact ⟨_, rfl, .framing hkey hframing⟩
    · exact ⟨_, rfl, .certificate hkey hframing hcertificate⟩
    · cases hnever
  · rintro ⟨_, rfl, H⟩
    cases H with
    | key hkey => exact .inl ⟨_, hkey, rfl⟩
    | framing hkey hframing => exact .inr ⟨(), hkey, .inl ⟨_, hframing, rfl⟩⟩
    | certificate hkey hframing hcertificate =>
      exact .inr ⟨(), hkey, .inr ⟨_, hframing, .inl ⟨_, hcertificate, rfl⟩⟩⟩

theorem ofEntries_eq_error_iff_of_full (H : Full data certificateBytes keyBytes) :
    ofEntries data R = .error e ↔
      ∃ fault, e = .unreadable fault ∧ Unfit R certificateBytes keyBytes fault := by
  simp only [ofEntries_of_full H, bind_eq_error_iff, mapError_eq_error_iff, mapError_eq_ok_iff,
    ofPem_eq_error_iff]
  constructor
  · rintro (⟨fault, hcertificate, rfl⟩ | ⟨certificate, hcertificate, ⟨fault, hkey, rfl⟩ |
      ⟨key, hkey, ⟨fault, rfl, hmisread⟩ | ⟨_, -, hnever⟩⟩⟩)
    · exact ⟨_, rfl, .certificateText hcertificate⟩
    · exact ⟨_, rfl, .keyText hcertificate hkey⟩
    · exact ⟨_, rfl, .texts hcertificate hkey hmisread⟩
    · cases hnever
  · rintro ⟨_, rfl, K⟩
    cases K with
    | certificateText hcertificate => exact .inl ⟨_, hcertificate, rfl⟩
    | keyText hcertificate hkey => exact .inr ⟨_, hcertificate, .inl ⟨_, hkey, rfl⟩⟩
    | texts hcertificate hkey hmisread =>
      exact .inr ⟨_, hcertificate, .inr ⟨_, hkey, .inl ⟨_, rfl, hmisread⟩⟩⟩

/-- Full entries are never taken for missing ones. -/
theorem ofEntries_ne_none_of_full (H : Full data certificateBytes keyBytes) :
    ofEntries data R ≠ .ok none := by
  intro hnone
  rw [ofEntries_of_full H] at hnone
  obtain ⟨_, -, hnone⟩ := exists_of_bind_eq_ok hnone
  obtain ⟨_, -, hnone⟩ := exists_of_bind_eq_ok hnone
  obtain ⟨_, -, hnone⟩ := exists_of_bind_eq_ok hnone
  cases hnone

theorem ofEntries_eq_none_iff : ofEntries data R = .ok none ↔ Missing data := by
  refine ⟨fun hnone => ?_, ofEntries_of_missing⟩
  rcases missing_or_full data with hmissing | ⟨_, _, hfull⟩
  · exact hmissing
  · exact absurd hnone (ofEntries_ne_none_of_full hfull)

theorem ofEntries_eq_error_iff : ofEntries data R = .error e ↔
    ∃ certificateBytes keyBytes fault, Full data certificateBytes keyBytes ∧
      e = .unreadable fault ∧ Unfit R certificateBytes keyBytes fault := by
  constructor
  · intro herror
    rcases missing_or_full data with hmissing | ⟨certificateBytes, keyBytes, hfull⟩
    · rw [ofEntries_of_missing hmissing] at herror
      cases herror
    · obtain ⟨fault, he, hunfit⟩ := (ofEntries_eq_error_iff_of_full hfull).1 herror
      exact ⟨certificateBytes, keyBytes, fault, hfull, he, hunfit⟩
  · rintro ⟨certificateBytes, keyBytes, fault, hfull, he, hunfit⟩
    exact (ofEntries_eq_error_iff_of_full hfull).2 ⟨fault, he, hunfit⟩

/-- What was read is stored as the entries that it was read from, without the others. -/
theorem toEntries_eq_only (h : ofEntries data R = .ok (some a)) :
    ∃ entries, data = some entries ∧ a.toEntries = entries.only [certificateEntry, keyEntry] := by
  obtain ⟨entries, rfl, hcertificate, hkey⟩ := entries_of_ofEntries h
  refine ⟨entries, rfl, KeyMap.ext_get? fun name => ?_⟩
  rw [KeyMap.get?_only]
  split
  · rename_i hname
    rcases List.mem_pair.1 hname with rfl | rfl
    · rw [hcertificate, get?_toEntries_certificate, bundle]
    · rw [hkey, get?_toEntries_key]
  · rename_i hname
    rw [List.mem_pair, not_or] at hname
    exact get?_toEntries_of_ne hname.1 hname.2

/-- What is stored of an authority that was read is read as that authority. -/
theorem ofEntries_toEntries_of_ofPem (h : ofPem certificate key R = .ok a) :
    ofEntries (some a.toEntries) R = .ok (some a) := by
  obtain ⟨rfl, rfl⟩ := texts_of_ofPem h
  exact ofEntries_toEntries h

end Authority

namespace Rotation

open Authority Scene

variable {horizon : Nat} {name namespaceName certificate key : String} {a : Authority}
  {schedule : Schedule} {s t : Scene} {written : Written}

/-- Where an authority was stored alone, its entries are there to be read. -/
theorem entries_of_persist
    (hrun : (persist horizon name namespaceName a schedule).run.Runs Alone s (.ok (.ok written))
      t) : t.entries name = some a.toEntries :=
  entries_of_stores (persist_alone hrun).stores

/-- An authority that was read from texts is read back from its entries, also after it was stored
while nobody else wrote. And whatever entries there are: nothing is read from them just if one of
the two is missing or empty; an authority that is read is stored as these two entries; and
everything else is an error that says the first thing that is wrong with them. All that is asked of
how keys and certificates are read is that nothing is read from empty texts. -/
theorem reading_exact (R : Reader) :
    (∀ certificate key a, ofPem certificate key R = .ok a →
      ofEntries (some a.toEntries) R = .ok (some a) ∧
      ∀ {horizon name namespaceName schedule s written t},
        (persist horizon name namespaceName a schedule).run.Runs Alone s (.ok (.ok written)) t →
        (load name R).run.look t = some (.ok (some a)) ∧
        ∀ {now result u}, (load name R).run.Runs Alone (t.anew now) result u →
          u.past.Every Request.Heard → result = .ok (.ok (some a))) ∧
    ∀ data, (ofEntries data R = .ok none ↔ Missing data) ∧
      (∀ a, ofEntries data R = .ok (some a) →
        ∃ entries, data = some entries ∧ a.toEntries = entries.only [certificateEntry, keyEntry]) ∧
      ∀ e, ofEntries data R = .error e ↔
        ∃ certificateBytes keyBytes fault, Full data certificateBytes keyBytes ∧
          e = .unreadable fault ∧ Unfit R certificateBytes keyBytes fault := by
  refine ⟨fun certificate key a hread => ⟨ofEntries_toEntries_of_ofPem hread, ?_⟩,
    fun data =>
      ⟨ofEntries_eq_none_iff, fun _ => toEntries_eq_only, fun _ => ofEntries_eq_error_iff⟩⟩
  intro horizon name namespaceName schedule s written t hpersist
  have hentries : ofEntries (t.entries name) R = .ok (some a) := by
    rw [entries_of_persist hpersist]
    exact ofEntries_toEntries_of_ofPem hread
  refine ⟨load_look hentries, fun {now result u} hload hheard => ?_⟩
  have hlook : (load name R).run.look (t.anew now) = some (.ok (some a)) := load_look hentries
  exact (hload.look hlook (.refl _) History.every_nil hheard).1

/-- An authority is stored where the secret is empty, and read back. With a damaged key it is an
error, and with an empty one it is none. -/
theorem reading_exact_fresh :
    (∃ s t u, (persist 1 "ca" "system" Sample.first .onConflict).run.Runs Alone s
        (.ok (.ok .updated)) t ∧
      (load "ca").run.Runs Alone (t.anew t.clock) (.ok (.ok (some Sample.first))) u) ∧
    ofEntries (some (Sample.first.toEntries.insert keyEntry [0xFF])) =
      .error (.unreadable (.keyText (.invalid 1 0))) ∧
    ofEntries (some (Sample.first.toEntries.insert keyEntry [])) = .ok none := by
  obtain ⟨hstored, hread⟩ := reading_exact .standard
  have haccepted := ofPem_of_ofEntries Sample.ofEntries_first
  refine ⟨?_, ?_, ?_⟩
  · let storing := (persist 1 "ca" "system" Sample.first .onConflict).run
    have hclear : fresh.Clear (· = .ofRatio false 1 2) := Sample.clear rfl
    have hresult : EndsIn (· = .updated) (fresh.result storing) := by decide +kernel
    obtain ⟨_, hresult, rfl⟩ := hresult.exists
    obtain ⟨sound, past, -, hrun⟩ := hclear.runs storing
    rw [hresult] at hrun
    obtain ⟨_, _, hheard, hload⟩ := (hclear.left_clear storing).runs (load "ca").run
    obtain ⟨-, hpersisted⟩ := hstored _ _ _ haccepted
    obtain ⟨-, hload'⟩ := hpersisted hrun
    rw [hload' hload hheard] at hload
    exact ⟨_, _, _, hrun, hload⟩
  · obtain ⟨-, -, herror⟩ := hread (some (Sample.first.toEntries.insert keyEntry [0xFF]))
    have hcertificate : Text.Utf8.decode Sample.first.bundle = .ok Sample.first.certificate :=
      Text.Utf8.decode_encode _
    have hfull : Full (some (Sample.first.toEntries.insert keyEntry [0xFF])) Sample.first.bundle
        [0xFF] :=
      ⟨⟨_, rfl, rfl, rfl⟩, Text.Utf8.encode_ne_nil (ne_empty_of_ofPem haccepted).1, by simp⟩
    exact (herror _).2 ⟨_, _, _, hfull, rfl, .keyText hcertificate rfl⟩
  · obtain ⟨hnone, -⟩ := hread (some (Sample.first.toEntries.insert keyEntry []))
    exact hnone.2 (.inr ⟨_, rfl, keyEntry, by simp, .inr rfl⟩)

end Rotation

end TrustAnchor
