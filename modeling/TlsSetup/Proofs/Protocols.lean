import TlsSetup.Context.Assembly
import TlsSetup.Proofs.Attempt

/-!
# Lists of protocols

Names that can be written are read back as they were, so a configuration, which holds no other names,
sends its protocols without loss. A context negotiates the configured protocols if that is wanted and
there are any, and then all of them can be written.
-/

namespace TlsSetup

namespace Alpn

variable {name : Bytes} {names : List Bytes}

theorem isName_iff : isName name = true ↔ 1 ≤ name.length ∧ name.length ≤ 255 := by
  rw [isName, Bool.and_eq_true, decide_eq_true_eq, decide_eq_true_eq]
  exact Iff.rfl

theorem toNat_length (h : isName name = true) :
    (UInt8.ofNat name.length).toNat = name.length := by
  obtain ⟨-, hmax⟩ := isName_iff.mp h
  exact UInt8.toNat_ofNat_of_lt' (by simp only [UInt8.size]; omega)

theorem length_of_isName (h : isName name = true) (rest : Bytes) :
    ¬ (UInt8.ofNat name.length = 0 ∨
      (name ++ rest).length < (UInt8.ofNat name.length).toNat) := by
  obtain ⟨hpos, -⟩ := isName_iff.mp h
  have hlength := toNat_length h
  intro hend
  rcases hend with hzero | hshort
  · rw [hzero] at hlength
    have hnone : name.length = 0 := hlength.symm
    omega
  · rw [hlength, List.length_append] at hshort
    omega

private theorem decode_name (h : isName name = true) (rest : Bytes) :
    decode (UInt8.ofNat name.length :: (name ++ rest)) = name :: decode rest := by
  rw [decode, if_neg (length_of_isName h rest), toNat_length h, List.take_left, List.drop_left]

theorem encode_cons (name : Bytes) (names : List Bytes) :
    encode (name :: names) = UInt8.ofNat name.length :: (name ++ encode names) := by
  rw [encode, List.flatMap_cons, List.cons_append, encode]

private theorem encode_append (names more : List Bytes) :
    encode (names ++ more) = encode names ++ encode more := List.flatMap_append

private theorem decode_encode_append (h : ∀ name ∈ names, isName name = true) (rest : Bytes) :
    decode (encode names ++ rest) = names ++ decode rest := by
  induction names with
  | nil => rfl
  | cons name names ih =>
    obtain ⟨hname, hnames⟩ := List.forall_mem_cons.mp h
    rw [encode_cons, List.cons_append, List.append_assoc, decode_name hname, ih hnames,
      List.cons_append]

theorem decode_encode (h : ∀ name ∈ names, isName name = true) : decode (encode names) = names := by
  have hnil : decode [] = [] := by rw [decode]
  have happend := decode_encode_append h []
  rwa [List.append_nil, hnil, List.append_nil] at happend

private theorem encode_injective {more : List Bytes} (h : ∀ name ∈ names, isName name = true)
    (h' : ∀ name ∈ more, isName name = true) (he : encode names = encode more) : names = more := by
  calc names = decode (encode names) := (decode_encode h).symm
    _ = decode (encode more) := by rw [he]
    _ = more := decode_encode h'

/-- The written form of a list: each name stands behind a byte that tells its whole length. -/
inductive Written : List Bytes → Bytes → Prop
  | nil : Written [] []
  | cons {name rest : Bytes} {names : List Bytes} {n : UInt8} (hn : n.toNat = name.length)
      (hrest : Written names rest) : Written (name :: names) (n :: (name ++ rest))

private theorem written_encode (h : ∀ name ∈ names, isName name = true) :
    Written names (encode names) := by
  induction names with
  | nil => exact .nil
  | cons name names ih =>
    obtain ⟨hname, hnames⟩ := List.forall_mem_cons.mp h
    rw [encode_cons]
    exact .cons (toNat_length hname) (ih hnames)

theorem Written.length_eq {bs : Bytes} (h : Written names bs) :
    bs.length = (names.map fun name => 1 + name.length).sum := by
  induction h with
  | nil => rfl
  | cons hn hrest ih =>
    rw [List.length_cons, List.length_append, ih, List.map_cons, List.sum_cons]
    omega

/-- A text that can be the name of a protocol. -/
def Fits (p : String) : Prop := 1 ≤ p.utf8ByteSize ∧ p.utf8ByteSize ≤ 255

instance : DecidablePred Fits := fun p =>
  inferInstanceAs (Decidable (1 ≤ p.utf8ByteSize ∧ p.utf8ByteSize ≤ 255))

theorem isName_ofString_iff {p : String} : isName (Bytes.ofString p) = true ↔ Fits p := by
  rw [isName_iff, Bytes.length_ofString, Fits]

theorem isName_of_forall_fits {protocols : List String} (h : ∀ p ∈ protocols, Fits p) :
    ∀ name ∈ protocols.map Bytes.ofString, isName name = true := by
  intro name hname
  obtain ⟨p, hp, rfl⟩ := List.mem_map.mp hname
  exact isName_ofString_iff.mpr (h p hp)

end Alpn

namespace AlpnConfig

variable {protocols : List String} {selector : SelectorFailure} {listener : ListenerFailure}
  {a : AlpnConfig}

private theorem make_eq_ok : make protocols selector listener = .ok a ↔
    (∀ p ∈ protocols, Alpn.isName (Bytes.ofString p) = true) ∧
      a = ⟨protocols, selector, listener⟩ := by
  have hall : protocols.find? (fun p => !Alpn.isName (Bytes.ofString p)) = none ↔
      ∀ p ∈ protocols, Alpn.isName (Bytes.ofString p) = true := by
    simp
  rw [make]
  cases hfind : protocols.find? fun p => !Alpn.isName (Bytes.ofString p) with
  | some p =>
    have hnot : ¬ ∀ p ∈ protocols, Alpn.isName (Bytes.ofString p) = true := by
      rw [← hall, hfind]
      nofun
    exact iff_of_false nofun fun h => hnot h.1
  | none =>
    rw [and_iff_right (hall.mp hfind)]
    constructor
    · intro h
      exact (Except.ok.inj h).symm
    · rintro rfl
      rfl

private theorem make_of_fits (h : ∀ p ∈ protocols, Alpn.Fits p) :
    make protocols selector listener = .ok ⟨protocols, selector, listener⟩ :=
  make_eq_ok.mpr ⟨fun p hp => Alpn.isName_ofString_iff.mpr (h p hp), rfl⟩

private theorem fits_of_make (h : make protocols selector listener = .ok a) :
    ∀ p ∈ protocols, Alpn.Fits p := by
  intro p hp
  exact Alpn.isName_ofString_iff.mp ((make_eq_ok.mp h).1 p hp)

theorem make_eq : make protocols selector listener =
    match protocols.find? fun p => ¬ Alpn.Fits p with
    | some p => .error (.config (.protocolLength p.utf8ByteSize))
    | none => .ok ⟨protocols, selector, listener⟩ := by
  have hunfit : (fun p => !Alpn.isName (Bytes.ofString p)) = fun p => decide (¬ Alpn.Fits p) := by
    funext p
    simp [← Alpn.isName_ofString_iff]
  cases hfind : protocols.find? fun p => ¬ Alpn.Fits p with
  | none => rw [make, hunfit, hfind]
  | some p => rw [make, hunfit, hfind]

/-- The first name that cannot be written is the reason of a refusal. -/
theorem make_eq_error {e : Error} : make protocols selector listener = .error e ↔
    ∃ before p after, protocols = before ++ p :: after ∧ (∀ q ∈ before, Alpn.Fits q) ∧
      ¬ Alpn.Fits p ∧ e = .config (.protocolLength p.utf8ByteSize) := by
  rw [make_eq]
  constructor
  · intro h
    cases hfind : protocols.find? fun p => ¬ Alpn.Fits p with
    | none =>
      rw [hfind] at h
      cases h
    | some p =>
      obtain ⟨hp, before, after, hsplit, hbefore⟩ := List.find?_eq_some_iff_append.mp hfind
      have hfits : ∀ q ∈ before, Alpn.Fits q := by simpa using hbefore
      rw [hfind] at h
      exact ⟨before, p, after, hsplit, hfits, of_decide_eq_true hp, (Except.error.inj h).symm⟩
  · rintro ⟨before, p, after, hsplit, hbefore, hp, rfl⟩
    have hfits : ∀ q ∈ before, (!decide (¬ Alpn.Fits q)) = true := by simpa using hbefore
    have hfind : (protocols.find? fun p => ¬ Alpn.Fits p) = some p :=
      List.find?_eq_some_iff_append.mpr ⟨decide_eq_true hp, before, after, hsplit, hfits⟩
    rw [hfind]

/-- Every list of names that can be written has a configuration, and no other list. What the
configuration sends is the written form of the list, whole and in order: it is read back as the list,
no other list is sent as the same bytes, and lists that are put together are sent one after the other. -/
theorem wire_carries_protocols (protocols : List String) (selector : SelectorFailure)
    (listener : ListenerFailure) :
    ((∃ a, make protocols selector listener = .ok a) ↔ ∀ p ∈ protocols, Alpn.Fits p) ∧
    (∀ e, make protocols selector listener = .error e ↔
      ∃ before p after, protocols = before ++ p :: after ∧ (∀ q ∈ before, Alpn.Fits q) ∧
        ¬ Alpn.Fits p ∧ e = .config (.protocolLength p.utf8ByteSize)) ∧
    ∀ a, make protocols selector listener = .ok a →
      a.protocols = protocols ∧
      Alpn.Written (protocols.map Bytes.ofString) a.wire ∧
      Alpn.decode a.wire = protocols.map Bytes.ofString ∧
      a.wire.length = (protocols.map fun p => 1 + p.utf8ByteSize).sum ∧
      ∀ more selector' listener' b, make more selector' listener' = .ok b →
        (b.wire = a.wire → b.protocols = a.protocols) ∧
        ∃ both, make (protocols ++ more) selector listener = .ok both ∧
          both.wire = a.wire ++ b.wire ∧
          Alpn.decode both.wire = protocols.map Bytes.ofString ++ more.map Bytes.ofString := by
  refine ⟨?_, fun e => make_eq_error, ?_⟩
  · constructor
    · rintro ⟨a, ha⟩
      exact fits_of_make ha
    · intro h
      exact ⟨_, make_of_fits h⟩
  · intro a ha
    have hfits := fits_of_make ha
    have hnames := Alpn.isName_of_forall_fits hfits
    obtain ⟨-, rfl⟩ := make_eq_ok.mp ha
    have hwritten := Alpn.written_encode hnames
    refine ⟨rfl, hwritten, Alpn.decode_encode hnames, ?_, ?_⟩
    · refine hwritten.length_eq.trans ?_
      rw [List.map_map]
      rfl
    · intro more selector' listener' b hb
      have hmorefits := fits_of_make hb
      have hmore := Alpn.isName_of_forall_fits hmorefits
      obtain ⟨-, rfl⟩ := make_eq_ok.mp hb
      constructor
      · intro hwire
        have hsame := Alpn.encode_injective hmore hnames hwire
        exact List.map_injective_iff.mpr (fun _ _ => Bytes.ofString_injective) hsame
      · have hboth : ∀ p ∈ protocols ++ more, Alpn.Fits p := by
          intro p hp
          exact (List.mem_append.mp hp).elim (hfits p) (hmorefits p)
        have hwire : Alpn.encode ((protocols ++ more).map Bytes.ofString) =
            Alpn.encode (protocols.map Bytes.ofString) ++ Alpn.encode (more.map Bytes.ofString) := by
          rw [List.map_append, Alpn.encode_append]
        refine ⟨_, make_of_fits hboth, hwire, ?_⟩
        refine (Alpn.decode_encode (Alpn.isName_of_forall_fits hboth)).trans ?_
        rw [List.map_append]

-- what counts is the length in bytes: each of these letters takes two
example : make ["h2", String.ofList (List.replicate 128 'é')] .noAdvertise .accept =
    .error (.config (.protocolLength 256)) := by decide +kernel

end AlpnConfig

/-- Protocols are negotiated if that is wanted and there are any. -/
theorem Options.negotiates_iff {o : Options} {useAlpn : Bool} :
    (useAlpn && !o.protocols.isEmpty) = true ↔ useAlpn = true ∧ o.protocols ≠ [] := by
  simp

theorem Options.alpnConfig_eq_ok {o : Options} {useAlpn : Bool} {alpn : Option AlpnConfig} :
    o.alpnConfig useAlpn = .ok alpn ↔
      ((useAlpn = true ∧ o.protocols ≠ []) ∧
        (∀ p ∈ o.protocols, Alpn.isName (Bytes.ofString p) = true) ∧
        alpn = some ⟨o.protocols, (alpnFailures o.engine).1, (alpnFailures o.engine).2⟩) ∨
      (¬ (useAlpn = true ∧ o.protocols ≠ []) ∧ alpn = none) := by
  rw [alpnConfig, ← negotiates_iff]
  by_cases h : (useAlpn && !o.protocols.isEmpty) = true
  · simp only [h, if_true, except_map_eq_ok, AlpnConfig.make_eq_ok]
    simp
  · simp only [h, Bool.false_eq_true, if_false, false_and, false_or, not_false_eq_true, true_and]
    constructor
    · intro hok
      exact (Except.ok.inj hok).symm
    · rintro rfl
      rfl

end TlsSetup
