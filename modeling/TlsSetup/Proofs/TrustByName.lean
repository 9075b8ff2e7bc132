import TlsSetup.Proofs.ServerNames

/-!
# Which validators a name gets

A table of validators is made by calls that give a set to a name or set the source to fall back on. Of
the calls that give a set to a name, in any letter case, only the last counts: if its set has no member,
no earlier one comes back, and the name gets what the last source to fall back on gives.
-/

namespace TlsSetup

open Text

namespace NamedTrust

inductive Call where
  | name (name : String) (validators : List Validator)
  | fallback (source : TrustSource)

namespace Call

def setFor? (name : String) : Call → Option (List Validator)
  | .name other vs => if lowerAscii name = lowerAscii other then some vs else none
  | .fallback _ => none

def fallback? : Call → Option TrustSource
  | .name _ _ => none
  | .fallback source => some source

/-- Whether a call sets anything that is looked at for a name. -/
def concerns (name : String) : Call → Bool
  | .name other _ => lowerAscii name == lowerAscii other
  | .fallback _ => true

/-- Two calls that do not set the same thing. -/
def Independent : Call → Call → Prop
  | .name n _, .name n' _ => lowerAscii n ≠ lowerAscii n'
  | .name _ _, .fallback _ => True
  | .fallback _, .name _ _ => True
  | .fallback _, .fallback _ => False

end Call

def call (t : NamedTrust) : Call → NamedTrust
  | .name name vs => t.withName name vs
  | .fallback source => t.withDefault source

def build (calls : List Call) : NamedTrust := calls.foldl call empty

/-- The set that a name was given last. -/
def lastSet (calls : List Call) (name : String) : Option (List Validator) :=
  (calls.filterMap (Call.setFor? name)).getLast?

def lastFallback (calls : List Call) : Option TrustSource :=
  (calls.filterMap Call.fallback?).getLast?

/-- The same calls in another order, in which those that set the same thing follow each other as
before. -/
inductive Reordered : List Call → List Call → Prop
  | nil : Reordered [] []
  | cons (c : Call) {calls calls' : List Call} (h : Reordered calls calls') :
      Reordered (c :: calls) (c :: calls')
  | swap {c d : Call} (h : c.Independent d) (calls : List Call) :
      Reordered (c :: d :: calls) (d :: c :: calls)
  | trans {calls calls' calls'' : List Call} (h : Reordered calls calls')
      (h' : Reordered calls' calls'') : Reordered calls calls''

variable {calls calls' : List Call} {t t' : NamedTrust} {name : String}

private theorem setFor?_of_eq {other : String} (h : lowerAscii name = lowerAscii other)
    (vs : List Validator) : (Call.name other vs).setFor? name = some vs := if_pos h

private theorem setFor?_of_ne {other : String} (h : lowerAscii name ≠ lowerAscii other)
    (vs : List Validator) : (Call.name other vs).setFor? name = none := if_neg h

private theorem lookup_call (t : NamedTrust) (c : Call) (name : String) :
    (t.call c).names.lookup (lowerAscii name) =
      (c.setFor? name).or (t.names.lookup (lowerAscii name)) := by
  cases c with
  | name other vs =>
    rw [call, lookup_withName, Call.setFor?]
    split <;> rfl
  | fallback source => rfl

private theorem default_call (t : NamedTrust) (c : Call) :
    (t.call c).default = c.fallback?.or t.default := by
  cases c <;> rfl

private theorem build_concat (calls : List Call) (c : Call) :
    build (calls ++ [c]) = (build calls).call c := by
  rw [build, List.foldl_append]
  rfl

private theorem getLast?_filterMap_concat {α β : Type} (f : α → Option β) (xs : List α) (x : α) :
    ((xs ++ [x]).filterMap f).getLast? = (f x).or (xs.filterMap f).getLast? := by
  rw [List.filterMap_append, List.getLast?_append, List.filterMap_cons]
  cases f x <;> rfl

private theorem lookup_build (calls : List Call) (name : String) :
    (build calls).names.lookup (lowerAscii name) = lastSet calls name := by
  -- from the end of the list, where the call stands that counts most
  induction calls using List.reverseRecOn with
  | nil => rfl
  | append_singleton calls c ih =>
    rw [build_concat, lookup_call, ih, lastSet, lastSet, getLast?_filterMap_concat]

private theorem default_build (calls : List Call) : (build calls).default = lastFallback calls := by
  induction calls using List.reverseRecOn with
  | nil => rfl
  | append_singleton calls c ih =>
    rw [build_concat, default_call, ih, lastFallback, lastFallback, getLast?_filterMap_concat]

private theorem setFor_build (calls : List Call) (name : String) :
    (build calls).setFor name = (lastSet calls name).filter fun vs => !vs.isEmpty := by
  rw [setFor, lookup_build]

private theorem setFor?_of_not_concerns {c : Call} (h : c.concerns name = false) :
    c.setFor? name = none ∧ c.fallback? = none := by
  cases c with
  | name other vs =>
    have hne : lowerAscii name ≠ lowerAscii other := by simpa [Call.concerns] using h
    exact ⟨setFor?_of_ne hne vs, rfl⟩
  | fallback source => simp [Call.concerns] at h

private theorem filterMap_filter_concerns {β : Type} {f : Call → Option β}
    (hf : ∀ c : Call, c.concerns name = false → f c = none) (calls : List Call) :
    (calls.filter (Call.concerns name)).filterMap f = calls.filterMap f := by
  rw [List.filterMap_filter]
  apply List.filterMap_congr
  intro c _
  cases hc : c.concerns name with
  | true => rfl
  | false => exact (hf c hc).symm

theorem Call.Independent.setFor? {c d : Call} (h : c.Independent d) (name : String) :
    c.setFor? name = none ∨ d.setFor? name = none := by
  cases c with
  | fallback source => exact .inl rfl
  | name n vs =>
    cases d with
    | fallback source => exact .inr rfl
    | name n' vs' =>
      by_cases hn : lowerAscii name = lowerAscii n
      · have hne : lowerAscii name ≠ lowerAscii n' := by
          rw [hn]
          exact h
        exact .inr (setFor?_of_ne hne vs')
      · exact .inl (setFor?_of_ne hn vs)

theorem Call.Independent.fallback? {c d : Call} (h : c.Independent d) :
    c.fallback? = none ∨ d.fallback? = none := by
  cases c with
  | name n vs => exact .inl rfl
  | fallback source =>
    cases d with
    | name n' vs' => exact .inr rfl
    | fallback source' => exact absurd h id

theorem Reordered.filterMap_eq {β : Type} {f : Call → Option β} (h : Reordered calls calls')
    (hf : ∀ c d : Call, c.Independent d → f c = none ∨ f d = none) :
    calls.filterMap f = calls'.filterMap f := by
  induction h with
  | nil => rfl
  | cons c _ ih => rw [List.filterMap_cons, List.filterMap_cons, ih]
  | @swap c d hind calls =>
    simp only [List.filterMap_cons]
    -- at most one of the two is kept, so their order is not seen
    rcases hf c d hind with hc | hd
    · rw [hc]
    · rw [hd]
  | trans _ _ ih ih' => exact ih.trans ih'

theorem Reordered.lastSet_eq (h : Reordered calls calls') (name : String) :
    lastSet calls name = lastSet calls' name := by
  rw [lastSet, lastSet, h.filterMap_eq fun c d hind => hind.setFor? name]

theorem Reordered.lastFallback_eq (h : Reordered calls calls') :
    lastFallback calls = lastFallback calls' := by
  rw [lastFallback, lastFallback, h.filterMap_eq fun c d hind => hind.fallback?]

private theorem source_congr (hdefault : t.default = t'.default)
    (hlookup : ∀ name, t.names.lookup (lowerAscii name) = t'.names.lookup (lowerAscii name)) :
    t.source = t'.source := by
  simp only [source, hdefault, hlookup]

end NamedTrust

namespace Options

variable {o : Options} {t t' : NamedTrust} {calls calls' : List NamedTrust.Call} {name : String}

def trusting (o : Options) (t : NamedTrust) : Options := { o with trustSource := some t.source }

private theorem validatorsFor_none_trusting (o : Options) (t : NamedTrust) :
    ((o.trusting t).validatorsFor none).outcome = match t.default with
      | some source => source.default.outcome.map (Option.filter fun vs => !vs.isEmpty)
      | none => .ok none := by
  obtain ⟨chosen, hchooses, houtcome⟩ := chooses_validatorsFor (o := o.trusting t) rfl none
  rw [houtcome, (hchooses.unique .unnamed).1, NamedTrust.source]
  cases t.default <;> rfl

private theorem trustFor_named_congr (hdefault : t.default = t'.default)
    (hlookup : t.names.lookup (lowerAscii name) = t'.names.lookup (lowerAscii name)) :
    (o.trusting t).trustFor (some name) false = (o.trusting t').trustFor (some name) false := by
  have hvalidators : (o.trusting t).validatorsFor (some name) =
      (o.trusting t').validatorsFor (some name) := by
    simp only [validatorsFor, trusting, Source.ask, Source.filter, NamedTrust.source, hdefault,
      pure_bind, Option.map_some, hlookup]
  have hlists : (o.trusting t).revocationLists = (o.trusting t').revocationLists := rfl
  rw [trustFor, trustFor, hvalidators, hlists]

private theorem trustFollows_set (o : Options) {vs : List Validator} (hvs : vs ≠ [])
    (hset : NamedTrust.lastSet calls name = some vs) :
    (o.trusting (.build calls)).TrustFollows (some name) (.ok (some vs)) := by
  have hmember : (some vs).filter (fun vs => !vs.isEmpty) = some vs := by simpa using hvs
  apply trustFollows
  rw [validatorsFor_named rfl, NamedTrust.setFor_build, hset, hmember, Except.map, hmember]

private theorem trustFollows_fallback (o : Options)
    (hset : NamedTrust.lastSet calls name = none ∨ NamedTrust.lastSet calls name = some []) :
    (o.trusting (.build calls)).TrustFollows (some name)
      (match NamedTrust.lastFallback calls with
        | some source => source.default.outcome
        | none => .ok none) := by
  have hnone : (NamedTrust.lastSet calls name).filter (fun vs => !vs.isEmpty) = none := by
    rcases hset with h | h <;> rw [h] <;> rfl
  apply trustFollows
  rw [validatorsFor_named rfl, NamedTrust.setFor_build, hnone]
  simp only [validatorsFor_none_trusting, NamedTrust.default_build]
  cases NamedTrust.lastFallback calls <;> rfl

/-- A name gets the set that it was given last, whatever its letter case then and now, if that has a
member, and otherwise what the last source to fall back on gives. Calls for other names do not matter,
and neither does the order of calls that set different things. -/
theorem last_set_of_name_decides (o : Options) (calls : List NamedTrust.Call) :
    (∀ name,
      (∀ vs, vs ≠ [] → NamedTrust.lastSet calls name = some vs →
        (o.trusting (.build calls)).TrustFollows (some name) (.ok (some vs))) ∧
      (NamedTrust.lastSet calls name = none ∨ NamedTrust.lastSet calls name = some [] →
        (∀ source, NamedTrust.lastFallback calls = some source →
          (o.trusting (.build calls)).TrustFollows (some name) source.default.outcome) ∧
        (NamedTrust.lastFallback calls = none →
          (o.trusting (.build calls)).TrustFollows (some name) (.ok none))) ∧
      (o.trusting (.build (calls.filter (NamedTrust.Call.concerns name)))).trustFor (some name) false =
        (o.trusting (.build calls)).trustFor (some name) false) ∧
    ∀ calls', NamedTrust.Reordered calls calls' → ∀ serverName trustAll,
      (o.trusting (.build calls')).trustFor serverName trustAll =
        (o.trusting (.build calls)).trustFor serverName trustAll := by
  refine ⟨fun name => ⟨?_, ?_, ?_⟩, ?_⟩
  · intro vs hvs hset
    exact trustFollows_set o hvs hset
  · intro hset
    have hfollows := trustFollows_fallback o hset
    constructor
    · intro source hsource
      simpa only [hsource] using hfollows
    · intro hnone
      simpa only [hnone] using hfollows
  · apply trustFor_named_congr
    · rw [NamedTrust.default_build, NamedTrust.default_build, NamedTrust.lastFallback,
        NamedTrust.filterMap_filter_concerns fun c hc => (NamedTrust.setFor?_of_not_concerns hc).2]
      rfl
    · rw [NamedTrust.lookup_build, NamedTrust.lookup_build, NamedTrust.lastSet,
        NamedTrust.filterMap_filter_concerns fun c hc => (NamedTrust.setFor?_of_not_concerns hc).1]
      rfl
  · intro calls' h serverName trustAll
    have hsame : (NamedTrust.build calls').source = (NamedTrust.build calls).source := by
      apply NamedTrust.source_congr
      · rw [NamedTrust.default_build, NamedTrust.default_build, h.lastFallback_eq]
      · intro name
        rw [NamedTrust.lookup_build, NamedTrust.lookup_build, h.lastSet_eq]
    rw [trusting, trusting, hsame]

/-- A name is given a set, and later, in other letters, an empty one. -/
def emptiedCalls : List NamedTrust.Call :=
  [.name "B.example.com" [Validator.revokeAll],
    .fallback ⟨pure (some [Validator.trustAll]), pure none⟩,
    .name "c.example.com" [Validator.revokeAll],
    .name "b.Example.com" []]

private theorem lastSet_emptiedCalls : NamedTrust.lastSet emptiedCalls "b.example.com" = some [] ∧
    NamedTrust.lastSet emptiedCalls "C.example.com" = some [Validator.revokeAll] := by
  have hB : lowerAscii "b.example.com" = lowerAscii "B.example.com" :=
    String.toList_inj.mp (by decide +kernel)
  have hE : lowerAscii "b.example.com" = lowerAscii "b.Example.com" :=
    String.toList_inj.mp (by decide +kernel)
  have hC : lowerAscii "C.example.com" = lowerAscii "c.example.com" :=
    String.toList_inj.mp (by decide +kernel)
  have hbc : lowerAscii "b.example.com" ≠ lowerAscii "c.example.com" := by
    rw [Ne, ← String.toList_inj]
    decide +kernel
  have hCB : lowerAscii "C.example.com" ≠ lowerAscii "B.example.com" := by
    rw [hC, ← hB]
    exact hbc.symm
  have hCE : lowerAscii "C.example.com" ≠ lowerAscii "b.Example.com" := by
    rw [hC, ← hE]
    exact hbc.symm
  constructor
  · rw [NamedTrust.lastSet, emptiedCalls,
      List.filterMap_cons_some (NamedTrust.setFor?_of_eq hB _), List.filterMap_cons_none rfl,
      List.filterMap_cons_none (NamedTrust.setFor?_of_ne hbc _),
      List.filterMap_cons_some (NamedTrust.setFor?_of_eq hE _)]
    rfl
  · rw [NamedTrust.lastSet, emptiedCalls,
      List.filterMap_cons_none (NamedTrust.setFor?_of_ne hCB _), List.filterMap_cons_none rfl,
      List.filterMap_cons_some (NamedTrust.setFor?_of_eq hC _),
      List.filterMap_cons_none (NamedTrust.setFor?_of_ne hCE _)]
    rfl

private theorem lastFallback_emptiedCalls : NamedTrust.lastFallback emptiedCalls =
    some ⟨pure (some [Validator.trustAll]), pure none⟩ := rfl

/-- The first set does not come back; the empty one leaves the name to the source to fall back on,
which may as well be set first of all. -/
theorem last_set_of_name_decides_emptied :
    (((bareOptions .openssl).trusting (.build emptiedCalls)).trustFor
      (some "b.example.com") false).outcome = .ok (.validators [Validator.trustAll] []) ∧
    (((bareOptions .openssl).trusting (.build emptiedCalls)).trustFor
      (some "C.example.com") false).outcome = .ok (.validators [Validator.revokeAll] []) ∧
    ∃ source rest, NamedTrust.Reordered emptiedCalls (.fallback source :: rest) ∧
      (((bareOptions .openssl).trusting (.build (.fallback source :: rest))).trustFor
        (some "b.example.com") false).outcome = .ok (.validators [Validator.trustAll] []) := by
  obtain ⟨hb, hc⟩ := lastSet_emptiedCalls
  obtain ⟨hnames, horder⟩ := last_set_of_name_decides (bareOptions .openssl) emptiedCalls
  have hlists : ((bareOptions .openssl).trusting (.build emptiedCalls)).Configures [] :=
    ⟨[], [], .nil, .nil, rfl⟩
  have hfallback := ((hnames "b.example.com").2.1 (.inr hb)).1 _ lastFallback_emptiedCalls
  have hset := (hnames "C.example.com").1 _ (by simp) hc
  have hjudges := (hfallback.trusting [Validator.trustAll] (by simp) rfl _).mpr ⟨[], hlists, rfl⟩
  have hfree : (NamedTrust.Call.name "B.example.com" [Validator.revokeAll]).Independent
      (.fallback ⟨pure (some [Validator.trustAll]), pure none⟩) := trivial
  have hswap : NamedTrust.Reordered emptiedCalls _ := .swap hfree _
  refine ⟨hjudges, (hset.trusting _ (by simp) rfl _).mpr ⟨[], hlists, rfl⟩, _, _, hswap, ?_⟩
  rw [horder _ hswap]
  exact hjudges

end Options

end TlsSetup
