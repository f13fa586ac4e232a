import TrustAnchor.CommandLine.Parse
import TrustAnchor.Proofs.Entries

/-! Where the settings come from. Each field is what its flag says, or else what its environment
variable says, or else what it is by default, and how one field is set does not matter to the
others. -/

namespace TrustAnchor

/-! ## Numbers in decimal -/

namespace Text

/-- The text is a number in decimal. Zeros may stand in front. -/
structure Decimal (text : String) (n : Nat) : Prop where
  nonempty : text.toList ≠ []
  digits : ∀ c ∈ text.toList, c.isDigit
  value : Nat.ofDigitChars 10 text.toList 0 = n

variable {text : String} {n bound : Nat} {digits : List Char} {fault : NumberFault}

theorem decimal_repr (n : Nat) : Decimal n.repr n where
  nonempty := by
    rw [Nat.toList_repr]
    exact Nat.toDigits_ne_nil
  digits c hc := by
    rw [Nat.toList_repr] at hc
    exact Nat.isDigit_of_mem_toDigits (by decide) (by decide) hc
  value := by rw [Nat.toList_repr, Nat.ofDigitChars_ten_toDigits]

theorem le_ofDigitChars : n ≤ Nat.ofDigitChars 10 digits n := by
  induction digits generalizing n with
  | nil => exact Nat.le_refl n
  | cons c digits ih =>
    rw [Nat.ofDigitChars_cons]
    exact Nat.le_trans (by omega) ih

theorem digitsUpTo_of_isDigit (hdigits : ∀ c ∈ digits, c.isDigit)
    (hbound : Nat.ofDigitChars 10 digits n ≤ bound) :
    digitsUpTo bound fault n digits = .ok (Nat.ofDigitChars 10 digits n) := by
  induction digits generalizing n with
  | nil => rfl
  | cons c digits ih =>
    rw [List.forall_mem_cons] at hdigits
    have hnext : n * 10 + (c.toNat - 48) = 10 * n + (c.toNat - '0'.toNat) := by
      rw [Nat.mul_comm]
      rfl
    rw [Nat.ofDigitChars_cons, ← hnext] at hbound ⊢
    rw [digitsUpTo, if_pos hdigits.1]
    dsimp only
    rw [if_neg (Nat.not_lt.2 (Nat.le_trans le_ofDigitChars hbound))]
    exact ih hdigits.2 hbound

theorem natural_of_decimal (H : Decimal text n) (hbound : n ≤ bound) :
    natural bound text.toList = .ok n := by
  obtain ⟨hnonempty, hdigits, rfl⟩ := H
  have hread : digitsUpTo bound .tooLarge 0 text.toList = _ := digitsUpTo_of_isDigit hdigits hbound
  unfold natural
  split
  · rename_i hnil
    exact absurd hnil hnonempty
  · rename_i digits hplus
    rw [hplus] at hdigits
    exact absurd (hdigits '+' List.mem_cons_self) (by decide)
  · exact hread

theorem integer64_of_decimal (H : Decimal text n) (hbound : n ≤ Nat.pow 2 63 - 1) :
    integer64 text.toList = .ok (n : Int) := by
  unfold integer64
  split
  · rename_i digits hminus
    have hdigits := H.digits
    rw [hminus] at hdigits
    exact absurd (hdigits '-' List.mem_cons_self) (by decide)
  · rw [natural_of_decimal H hbound]
    rfl

end Text

namespace CommandLine

open Text (Decimal)

namespace Setting

variable {field other : Setting} {text : String} {s t : Settings} {n : Nat}

theorem number32_of_decimal (H : Decimal text n) (hn : n < Nat.pow 2 32) :
    number32 text = .ok n := by
  have hread : Text.integer64 text.toList = .ok (n : Int) :=
    Text.integer64_of_decimal H (Nat.le_trans (Nat.le_of_lt hn) (by decide))
  have hbound : n < 4294967296 := hn
  rw [number32, hread]
  dsimp only
  rw [if_pos ⟨by omega, by omega⟩, Int.toNat_natCast]

theorem number64_of_decimal (H : Decimal text n) (hn : n < Nat.pow 2 64) :
    number64 text = .ok n := by
  have hread : Text.natural (Nat.pow 2 64 - 1) text.toList = .ok n :=
    Text.natural_of_decimal H (Nat.le_sub_one_of_lt hn)
  rw [number64, hread]
  rfl

/-! ## Fields as texts -/

/-- The numbers below which those of a field have to be, if it is a number. -/
def bound? : Setting → Option Nat
  | .validityDays | .conflictAttempts => some (Nat.pow 2 32)
  | .maxRequeueSeconds => some (Nat.pow 2 64)
  | _ => none

/-- The number that a field is. -/
def number? (s : Settings) : Setting → Option Nat
  | .validityDays => some s.validityDays
  | .conflictAttempts => some s.conflictAttempts
  | .maxRequeueSeconds => some s.maxRequeueSeconds
  | _ => none

/-- The text can be assigned to the field: any text, or a number in its range. -/
def Fits (field : Setting) (text : String) : Prop :=
  ∀ bound, field.bound? = some bound → ∃ n < bound, Decimal text n

/-- The field is what the text says. -/
def Means (field : Setting) (text : String) (s : Settings) : Prop :=
  match field.number? s with
  | some n => Decimal text n
  | none => field.value s = text

/-- A text that fits the field is assigned to it, and to no other field. -/
theorem assign_of_fits (H : field.Fits text) : ∃ t, field.assign text s = .ok t ∧
    field.Means text t ∧ ∀ other ≠ field, ∀ text, other.Means text s → other.Means text t := by
  cases field with
  | namespaceName | caSecret | leafSecret | mutatingConfiguration | validatingConfiguration
  | commonName | organization =>
    refine ⟨_, rfl, rfl, fun other hother text hmeans => ?_⟩
    cases other <;> first | exact absurd rfl hother | exact hmeans
  | validityDays =>
    obtain ⟨n, hn, hdecimal⟩ := H _ rfl
    refine ⟨{ s with validityDays := n }, ?_, hdecimal, fun other hother text hmeans => ?_⟩
    · rw [assign, number32_of_decimal hdecimal hn]
      rfl
    · cases other <;> first | exact absurd rfl hother | exact hmeans
  | conflictAttempts =>
    obtain ⟨n, hn, hdecimal⟩ := H _ rfl
    refine ⟨{ s with conflictAttempts := n }, ?_, hdecimal, fun other hother text hmeans => ?_⟩
    · rw [assign, number32_of_decimal hdecimal hn]
      rfl
    · cases other <;> first | exact absurd rfl hother | exact hmeans
  | maxRequeueSeconds =>
    obtain ⟨n, hn, hdecimal⟩ := H _ rfl
    refine ⟨{ s with maxRequeueSeconds := n }, ?_, hdecimal, fun other hother text hmeans => ?_⟩
    · rw [assign, number64_of_decimal hdecimal hn]
      rfl
    · cases other <;> first | exact absurd rfl hother | exact hmeans

/-- Settings whose numbers are in the ranges of their fields. -/
structure InRange (s : Settings) : Prop where
  validityDays : s.validityDays < Nat.pow 2 32
  conflictAttempts : s.conflictAttempts < Nat.pow 2 32
  maxRequeueSeconds : s.maxRequeueSeconds < Nat.pow 2 64

theorem inRange_default : InRange {} := ⟨by decide, by decide, by decide⟩

theorem fits_value (H : InRange s) (field : Setting) : field.Fits (field.value s) := by
  intro bound hbound
  cases field with
  | validityDays =>
    cases hbound
    exact ⟨_, H.validityDays, Text.decimal_repr _⟩
  | conflictAttempts =>
    cases hbound
    exact ⟨_, H.conflictAttempts, Text.decimal_repr _⟩
  | maxRequeueSeconds =>
    cases hbound
    exact ⟨_, H.maxRequeueSeconds, Text.decimal_repr _⟩
  | _ => cases hbound

/-- Settings are determined by what their fields say. -/
theorem eq_of_means (H : ∀ field : Setting, field.Means (field.value s) t) : t = s := by
  have hnumber {m n : Nat} (h : Decimal m.repr n) : n = m :=
    h.value.symm.trans (Text.decimal_repr m).value
  obtain ⟨_, _, _, _, _, _, _, _, _, _⟩ := s
  obtain ⟨_, _, _, _, _, _, _, _, _, _⟩ := t
  cases H .namespaceName
  cases H .caSecret
  cases H .leafSecret
  cases H .mutatingConfiguration
  cases H .validatingConfiguration
  cases H .commonName
  cases H .organization
  cases hnumber (H .validityDays)
  cases hnumber (H .conflictAttempts)
  cases hnumber (H .maxRequeueSeconds)
  rfl

theorem fallback_eq (field : Setting) : field.fallback = field.value {} := by
  cases field <;> rfl

/-! ## Flags as arguments -/

/-- The argument that gives the field a text. -/
def argument (field : Setting) (text : String) : String := "--" ++ field.label ++ "=" ++ text

theorem splitValue_append {name value : List Char} (h : '=' ∉ name) :
    splitValue (name ++ '=' :: value) = (name, some value) := by
  induction name with
  | nil => rfl
  | cons c name ih =>
    rw [List.mem_cons, not_or] at h
    rw [List.cons_append, splitValue, if_neg (Ne.symm h.1), ih h.2]

theorem not_mem_label (field : Setting) : '=' ∉ field.label.toList := by
  cases field <;> decide

/-- The text may look like anything, also like a flag. -/
theorem read_argument (field : Setting) (text : String) :
    Argument.read (field.argument text) = .long field.label (some text) := by
  have hchars : (field.argument text).toList =
      '-' :: '-' :: (field.label.toList ++ '=' :: text.toList) := by
    simp [argument, String.toList_append]
  have hsplit : splitValue (field.label.toList ++ '=' :: text.toList) =
      (field.label.toList, some text.toList) := splitValue_append (not_mem_label field)
  cases hrest : field.label.toList ++ '=' :: text.toList with
  | nil => simp at hrest
  | cons c rest =>
    rw [hrest] at hchars hsplit
    rw [Argument.read, hchars]
    show Argument.long (String.ofList (splitValue (c :: rest)).1)
      ((splitValue (c :: rest)).2.map String.ofList) = _
    rw [hsplit, Option.map_some, String.ofList_toList, String.ofList_toList]

theorem find?_label (field : Setting) (switches : List Flag) :
    (Setting.all.map Flag.setting ++ switches).find? (·.label = field.label) =
      some (.setting field) := by
  rw [List.find?_append]
  cases field <;> rfl

end Setting

open Setting

namespace Progress

variable {p q : Progress} {known : List Setting} {field : Setting} {source : Setting → String}
  {vars : Variables} {offered : List Flag}

/-- Some fields have been read, each from its source. -/
structure Knows (p : Progress) (known : List Setting) (source : Setting → String) : Prop where
  given : ∀ field, .setting field ∈ p.given ↔ field ∈ known
  waiting : p.waiting = none
  means : ∀ field ∈ known, field.Means (source field) p.choice.settings

theorem knows_start : ({} : Progress).Knows [] source :=
  ⟨by simp, rfl, by simp⟩

theorem put_knows (H : p.Knows known source) (hnew : field ∉ known)
    (hfits : field.Fits (source field)) :
    ∃ q, p.put field (source field) = .ok q ∧ q.Knows (field :: known) source := by
  obtain ⟨settings, hassign, hmeans, hothers⟩ := assign_of_fits (s := p.choice.settings) hfits
  have hgiven : ¬ .setting field ∈ p.given := fun h => hnew ((H.given field).1 h)
  rw [put, if_neg hgiven, hassign]
  refine ⟨_, rfl, ⟨fun other => ?_, H.waiting, fun other hother => ?_⟩⟩
  · simp [H.given, or_comm]
  · rcases List.mem_cons.1 hother with rfl | hother
    · exact hmeans
    · have hne : other ≠ field := fun h => hnew (h ▸ hother)
      exact hothers other hne _ (H.means other hother)

theorem readAll_long {text name : String} {value : Option String} {rest : List String}
    (h : Argument.read text = .long name value) : p.readAll offered (text :: rest) =
      (p.next offered (.long name value) >>= fun q => q.readAll offered rest) := by
  rw [readAll.eq_def]
  dsimp only
  rw [h]

/-- The text of a field is looked at as soon as its argument is read, since it is attached to it. -/
theorem next_knows (H : p.Knows known source) (hnew : field ∉ known)
    (hfits : field.Fits (source field))
    (hoffered : offered.find? (·.label = field.label) = some (.setting field)) :
    ∃ q, p.next offered (.long field.label (some (source field))) = .ok q ∧
      q.Knows (field :: known) source := by
  obtain ⟨q, hput, hq⟩ := put_knows H hnew hfits
  refine ⟨q, ?_, hq⟩
  rw [next, hoffered]
  show (p.settle >>= (·.put field (source field))).mapError Stop.fault = _
  rw [settle, H.waiting]
  show (p.put field (source field)).mapError Stop.fault = _
  rw [hput]
  rfl

/-- Arguments that give each field once are read in any order. -/
theorem readAll_knows (H : p.Knows known source) {fields : List Setting} (hnodup : fields.Nodup)
    (hnew : ∀ field ∈ fields, field ∉ known) (hfits : ∀ field ∈ fields, field.Fits (source field))
    (hoffered : ∀ field : Setting, offered.find? (·.label = field.label) = some (.setting field)) :
    ∃ q, p.readAll offered (fields.map fun field => field.argument (source field)) = .ok q ∧
      q.Knows (fields.reverse ++ known) source := by
  induction fields generalizing p known with
  | nil =>
    refine ⟨p, ?_, H⟩
    rw [List.map_nil, readAll, settle, H.waiting]
    rfl
  | cons field fields ih =>
    rw [List.nodup_cons] at hnodup
    rw [List.forall_mem_cons] at hnew hfits
    obtain ⟨q, hnext, hq⟩ := next_knows H hnew.1 hfits.1 (hoffered field)
    -- The fields that are still to come are new to what has been read with this one.
    have hrest : ∀ other ∈ fields, other ∉ field :: known := by
      intro other hother hmem
      rcases List.mem_cons.1 hmem with rfl | hmem
      · exact hnodup.1 hother
      · exact hnew.2 other hother hmem
    obtain ⟨r, hread, hr⟩ := ih hq hnodup.2 hrest hfits.2
    refine ⟨r, ?_, ?_⟩
    · rw [List.map_cons, readAll_long (read_argument field (source field)), hnext]
      exact hread
    · rwa [List.reverse_cons, List.append_assoc]

/-- A field that was not given is read from its variable, or from its fallback. -/
theorem fill_setting (H : p.Knows known source)
    (hsource : field ∉ known → source field = (vars.lookup field.variableName).getD field.fallback)
    (hfits : field.Fits (source field)) :
    ∃ q known', p.fill vars (.setting field) = .ok q ∧ q.Knows known' source ∧ known ⊆ known' ∧
      field ∈ known' := by
  rw [fill]
  by_cases hknown : field ∈ known
  · rw [if_pos ((H.given field).2 hknown)]
    exact ⟨p, known, rfl, H, List.Subset.refl _, hknown⟩
  · rw [if_neg fun h => hknown ((H.given field).1 h), ← hsource hknown]
    obtain ⟨q, hput, hq⟩ := put_knows H hknown hfits
    exact ⟨q, field :: known, hput, hq, List.subset_cons_self _ _, List.mem_cons_self⟩

/-- No variable of the switch is set to anything that is neither true nor false. -/
def Plain (vars : Variables) (s : Switch) : Prop :=
  ∀ name text, s.variableName? = some name → vars.lookup name = some text →
    text = "true" ∨ text = "false"

theorem fill_switch {s : Switch} (H : p.Knows known source) (hplain : Plain vars s) :
    ∃ q, p.fill vars (.switch s) = .ok q ∧ q.Knows known source := by
  have hsame : ∀ logJson, Knows { p with choice := { p.choice with logJson } } known source :=
    fun _ => ⟨H.given, H.waiting, H.means⟩
  rw [fill]
  split
  · exact ⟨p, rfl, H⟩
  · dsimp only
    cases hname : s.variableName? with
    | none => exact ⟨p, rfl, H⟩
    | some name =>
      cases htext : vars.lookup name with
      | none =>
        rw [Option.bind_some, htext]
        exact ⟨p, rfl, H⟩
      | some text =>
        rw [Option.bind_some, htext]
        rcases hplain name text hname htext with rfl | rfl
        · exact ⟨_, rfl, hsame true⟩
        · exact ⟨p, rfl, H⟩

/-- A flag leaves known what was known, and makes its field known. -/
theorem fill_flag {flag : Flag} (H : p.Knows known source)
    (hsource : ∀ field ∉ known,
      source field = (vars.lookup field.variableName).getD field.fallback)
    (hfits : ∀ field : Setting, field.Fits (source field))
    (hplain : ∀ s, flag = .switch s → Plain vars s) :
    ∃ q known', p.fill vars flag = .ok q ∧ q.Knows known' source ∧ known ⊆ known' ∧
      ∀ field, flag = .setting field → field ∈ known' := by
  cases flag with
  | setting field =>
    obtain ⟨q, known', hfill, hq, hsubset, hfield⟩ := fill_setting H (hsource field) (hfits field)
    refine ⟨q, known', hfill, hq, hsubset, fun other hother => ?_⟩
    cases hother
    exact hfield
  | switch s =>
    obtain ⟨q, hfill, hq⟩ := fill_switch H (hplain s rfl)
    refine ⟨q, known, hfill, hq, List.Subset.refl _, fun other hother => ?_⟩
    cases hother

theorem fill_knows {flags : List Flag} (H : p.Knows known source)
    (hsource : ∀ field ∉ known,
      source field = (vars.lookup field.variableName).getD field.fallback)
    (hfits : ∀ field : Setting, field.Fits (source field))
    (hplain : ∀ s, .switch s ∈ flags → Plain vars s) :
    ∃ q known', flags.foldlM (fill vars) p = .ok q ∧ q.Knows known' source ∧ known ⊆ known' ∧
      ∀ field, .setting field ∈ flags → field ∈ known' := by
  induction flags generalizing p known with
  | nil => exact ⟨p, known, rfl, H, List.Subset.refl _, by simp⟩
  | cons flag flags ih =>
    obtain ⟨q, known', hfill, hq, hsubset, hflag⟩ :=
      fill_flag H hsource hfits fun s hs => hplain s (hs ▸ List.mem_cons_self)
    have hsource' : ∀ field ∉ known',
        source field = (vars.lookup field.variableName).getD field.fallback :=
      fun field hfield => hsource field fun h => hfield (hsubset h)
    obtain ⟨r, known'', hrest, hr, hsubset', hflags⟩ :=
      ih hq hsource' fun s hs => hplain s (List.mem_cons_of_mem _ hs)
    rw [List.foldlM_cons, hfill]
    refine ⟨r, known'', hrest, hr, List.Subset.trans hsubset hsubset', fun field hfield => ?_⟩
    rcases List.mem_cons.1 hfield with hsame | hfield
    · exact hsubset' (hflag field hsame.symm)
    · exact hflags field hfield

end Progress

/-! ## The whole command line -/

variable {flags : List (Setting × String)} {vars : Variables} {switches : List Switch}
  {field : Setting} {text : String}

/-- The flags of a program with the settings and some switches. -/
def offering (switches : List Switch) : List Flag :=
  Setting.all.map .setting ++ switches.map .switch

example : offering [.logJson, .help, .version] = Flag.all := rfl

example : offering [.help] = Flag.settingsOnly := rfl

/-- What a field is read from: its flag, or else its variable, or else its default. -/
def source (flags : List (Setting × String)) (vars : Variables) (field : Setting) : String :=
  (flags.lookup field).getD ((vars.lookup field.variableName).getD (field.value {}))

theorem lookup_of_mem (hnodup : (flags.map Prod.fst).Nodup) (h : (field, text) ∈ flags) :
    flags.lookup field = some text := by
  obtain ⟨earlier, later, rfl⟩ := List.append_of_mem h
  refine List.lookup_eq_some_iff.2 ⟨earlier, later, rfl, fun p hp => ?_⟩
  rw [List.map_append, List.nodup_append] at hnodup
  have hne : p.1 ≠ field :=
    hnodup.2.2 p.1 (List.mem_map_of_mem hp) field (List.mem_map_of_mem List.mem_cons_self)
  simpa using hne.symm

theorem lookup_of_not_mem (h : field ∉ flags.map Prod.fst) : flags.lookup field = none := by
  refine List.lookup_eq_none_iff.2 fun p hp => ?_
  have hne : field ≠ p.1 := fun he => h (he ▸ List.mem_map_of_mem hp)
  simpa using hne

/-- No field is given twice, and all that is read of the command line and of the environment fits
its field. -/
structure Proper (flags : List (Setting × String)) (vars : Variables) : Prop where
  once : (flags.map Prod.fst).Nodup
  given : ∀ f ∈ flags, f.1.Fits f.2
  environment : ∀ {field text}, field ∉ flags.map Prod.fst →
    vars.lookup field.variableName = some text → field.Fits text

theorem Proper.fits_source (H : Proper flags vars) (field : Setting) :
    field.Fits (source flags vars field) := by
  rw [source]
  by_cases hfield : field ∈ flags.map Prod.fst
  · obtain ⟨⟨_, text⟩, hmem, rfl⟩ := List.mem_map.1 hfield
    rw [lookup_of_mem H.once hmem]
    exact H.given _ hmem
  · rw [lookup_of_not_mem hfield]
    cases htext : vars.lookup field.variableName with
    | none => exact fits_value inRange_default field
    | some text => exact H.environment hfield htext

theorem parse_means (H : Proper flags vars) (hplain : ∀ s ∈ switches, Progress.Plain vars s) :
    ∃ choice, parse (offering switches) (flags.map fun f => f.1.argument f.2) vars = .ok choice ∧
      ∀ field : Setting, field.Means (source flags vars field) choice.settings := by
  have hargs : flags.map (fun f => f.1.argument f.2) =
      (flags.map Prod.fst).map fun field => field.argument (source flags vars field) := by
    rw [List.map_map]
    refine List.map_congr_left fun f hf => ?_
    rw [Function.comp, source, lookup_of_mem H.once hf, Option.getD_some]
  have hoffered (field : Setting) : (offering switches).find? (·.label = field.label) =
      some (.setting field) := find?_label field _
  obtain ⟨p, hread, hp⟩ := Progress.readAll_knows (p := {}) Progress.knows_start H.once (by simp)
    (fun field _ => H.fits_source field) hoffered
  rw [List.append_nil] at hp
  have hrest : ∀ field ∉ (flags.map Prod.fst).reverse, source flags vars field =
      (vars.lookup field.variableName).getD field.fallback := by
    intro field hfield
    rw [List.mem_reverse] at hfield
    rw [source, lookup_of_not_mem hfield, fallback_eq, Option.getD_none]
  have hswitches : ∀ s, .switch s ∈ offering switches → Progress.Plain vars s := by
    intro s hs
    refine hplain s ?_
    simpa [offering] using hs
  obtain ⟨q, known, hfill, hq, -, hknown⟩ :=
    Progress.fill_knows hp hrest H.fits_source hswitches
  refine ⟨q.choice, ?_, fun field => hq.means field (hknown field ?_)⟩
  · rw [parse, hargs, hread]
    show (List.foldlM (Progress.fill vars) p (offering switches)).mapError Stop.fault >>= _ = _
    rw [hfill]
    rfl
  · cases field <;> simp [offering, Setting.all]

/-- Settings are read back if everything that is read comes from them. -/
theorem parse_settings {s : Settings} (H : Proper flags vars)
    (hplain : ∀ s ∈ switches, Progress.Plain vars s)
    (hsource : ∀ field, source flags vars field = field.value s) :
    ∃ choice, parse (offering switches) (flags.map fun f => f.1.argument f.2) vars = .ok choice ∧
      choice.settings = s := by
  obtain ⟨choice, hparse, hmeans⟩ := parse_means H hplain
  exact ⟨choice, hparse, eq_of_means fun field => hsource field ▸ hmeans field⟩

theorem mem_all (field : Setting) : field ∈ Setting.all := by
  cases field <;> decide

theorem parse_written_as_flags {s : Settings} {fields : List Setting} (hs : InRange s)
    (hplain : ∀ s ∈ switches, Progress.Plain vars s) (hfields : fields.Perm Setting.all) :
    ∃ choice, parse (offering switches) (fields.map fun field => field.argument (field.value s))
      vars = .ok choice ∧ choice.settings = s := by
  let flags := fields.map fun field => (field, field.value s)
  have hfst : flags.map Prod.fst = fields := by simp [flags, Function.comp_def]
  have hall (field : Setting) : field ∈ fields := hfields.mem_iff.2 (mem_all field)
  have H : Proper flags vars := {
    once := by
      rw [hfst]
      exact hfields.nodup_iff.2 (by decide)
    given := by
      intro f hf
      obtain ⟨field, -, rfl⟩ := List.mem_map.1 hf
      exact fits_value hs field
    environment := fun hfield _ => absurd (hfst ▸ hall _) hfield }
  have hsource (field : Setting) : source flags vars field = field.value s := by
    rw [source, lookup_of_mem H.once (List.mem_map_of_mem (hall field)), Option.getD_some]
  simpa [flags, Function.comp_def] using parse_settings H hplain hsource

theorem parse_written_as_variables {s : Settings} (hs : InRange s)
    (hplain : ∀ s ∈ switches, Progress.Plain vars s)
    (hvars : ∀ field : Setting, vars.lookup field.variableName = some (field.value s)) :
    ∃ choice, parse (offering switches) [] vars = .ok choice ∧ choice.settings = s := by
  have H : Proper [] vars := {
    once := .nil
    given := by simp
    environment := by
      intro field text _ htext
      cases (hvars field).symm.trans htext
      exact fits_value hs field }
  have hsource (field : Setting) : source [] vars field = field.value s := by
    rw [source, hvars]
    rfl
  exact parse_settings H hplain hsource

/-- Whichever fields are given by flags, in whatever order, and whichever by variables: the command
line is read, and each field is what its flag says, or else its variable, or else its default. So
settings that are written as flags or as variables are read back. -/
theorem parse_by_source (hplain : ∀ s ∈ switches, Progress.Plain vars s) :
    (∀ flags, Proper flags vars →
      ∃ choice, parse (offering switches) (flags.map fun f => f.1.argument f.2) vars = .ok choice ∧
        ∀ field : Setting, field.Means (source flags vars field) choice.settings) ∧
    ∀ s, InRange s →
      (∀ fields : List Setting, fields.Perm Setting.all →
        ∃ choice, parse (offering switches) (fields.map fun field => field.argument (field.value s))
          vars = .ok choice ∧ choice.settings = s) ∧
      ((∀ field : Setting, vars.lookup field.variableName = some (field.value s)) →
        ∃ choice, parse (offering switches) [] vars = .ok choice ∧ choice.settings = s) :=
  ⟨fun _ H => parse_means H hplain, fun _ hs =>
    ⟨fun _ hfields => parse_written_as_flags hs hplain hfields,
      fun hvars => parse_written_as_variables hs hplain hvars⟩⟩

/-- One text looks like a flag, one number has zeros in front, and a variable that is no number is
not read because its flag is given. -/
theorem parse_by_source_mixed :
    let vars : Variables := [("WEBHOOK_CA_NAMESPACE", "inside"), ("WEBHOOK_CA_LOG_JSON", "true"),
      ("WEBHOOK_CA_MAX_REQUEUE_SECS", "never")]
    ∃ choice, parse Flag.all ["--max-requeue-secs=0060", "--ca-secret-name=--namespace=outside"]
        vars = .ok choice ∧
      choice.settings.namespaceName = "inside" ∧
      choice.settings.caSecret = "--namespace=outside" ∧
      choice.settings.validityDays = 365 ∧ choice.settings.maxRequeueSeconds = 60 := by
  intro vars
  have hplain : ∀ s ∈ [Switch.logJson, .help, .version], Progress.Plain vars s := by
    intro s _ name text hname htext
    cases s with
    | logJson =>
      cases hname
      have htrue : vars.lookup "WEBHOOK_CA_LOG_JSON" = some "true" := by decide
      exact .inl (Option.some.inj (htext.symm.trans htrue))
    | help | version => cases hname
  obtain ⟨hmixed, -⟩ := parse_by_source hplain
  let flags : List (Setting × String) :=
    [(.maxRequeueSeconds, "0060"), (.caSecret, "--namespace=outside")]
  have hproper : Proper flags vars := {
    once := by decide
    given := by
      intro f hf bound hbound
      rcases List.mem_pair.1 hf with rfl | rfl
      · cases hbound
        exact ⟨60, by decide, by decide, List.all_eq_true.1 (by decide), by decide⟩
      · cases hbound
    environment := by
      intro field text hfield htext bound hbound
      have hvalidity : vars.lookup "WEBHOOK_CA_VALIDITY_DAYS" = none := by decide
      have hattempts : vars.lookup "WEBHOOK_CA_CONFLICT_RETRY_ATTEMPTS" = none := by decide
      cases field with
      | validityDays => exact absurd (htext.symm.trans hvalidity) nofun
      | conflictAttempts => exact absurd (htext.symm.trans hattempts) nofun
      | maxRequeueSeconds => exact absurd List.mem_cons_self hfield
      | _ => cases hbound }
  obtain ⟨choice, hparse, hmeans⟩ := hmixed flags hproper
  have hvalidity : Decimal "365" choice.settings.validityDays := hmeans .validityDays
  have hrequeue : Decimal "0060" choice.settings.maxRequeueSeconds := hmeans .maxRequeueSeconds
  exact ⟨choice, hparse, hmeans .namespaceName, hmeans .caSecret, hvalidity.value.symm,
    hrequeue.value.symm⟩

end CommandLine

end TrustAnchor
