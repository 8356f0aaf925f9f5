import HouseStyle.Proofs.Search.Nearest
import HouseStyle.Engine

/-!
# Configuration decides alone or not at all

A preference that someone stated in words that the convention knows is the whole
answer: no tree is fetched, and neither the group nor the rules nor the state of
the request count.  A preference that cannot be looked up is the whole answer as
well, as a failure.  In all other cases the answer is that of a search, as if the
store said nothing.
-/

namespace HouseStyle

variable {τ ω : Type}

/-- What a convention recognizes is a clear answer. -/
theorem Convention.eq_yes_or_eq_no_of_readOption?
    {convention : Convention}
    {raw : String}
    {verdict : Verdict}
    (recognized : convention.readOption? raw = some verdict) :
    verdict = .yes ∨ verdict = .no := by
  obtain ⟨follows, -, rfl⟩ := Option.map_eq_some_iff.mp recognized
  cases follows with
  | true => exact .inl rfl
  | false => exact .inr rfl

namespace PreferenceStore

variable
  (store : PreferenceStore τ)
  (convention : Convention)
  (path : String)
  (preferences : τ)

/-- The store settles a question on its own: every engine with the store gives the result for an
artifact at the path, whatever its rules, its world and its group, and all that changes is the
state of the store. -/
def Settles
    (result : Except Failure (Inference Detail))
    (last : τ) : Prop :=
  ∀ (ω : Type) (rules : Rules) (world : World ω) (group : Group) (current : Artifact)
    (state : EngineState τ ω), current.path = path → state.preferences = preferences →
      Engine.infer ⟨store, rules, world⟩ convention group current state =
        (result, { state with preferences := last })

end PreferenceStore

namespace Engine

variable
  {store : PreferenceStore τ}
  {convention : Convention}
  {path : String}
  {preferences next last : τ}
  {value : OptionValue}
  {verdict : Verdict}
  {failure : Failure}

/-! ## What a store settles -/

theorem settles_of_empty_path :
    store.Settles convention "" preferences
      (.error (.invalidArgument "artifact path must not be empty")) preferences := by
  rintro ω rules world group current state unnamed rfl
  rw [infer, if_pos unnamed]

theorem settles_of_failure
    (named : path ≠ "")
    (failed : store.get path convention.optionKey preferences = (.error failure, next)) :
    store.Settles convention path preferences (.error failure) next := by
  rintro ω rules world group current state rfl rfl
  rw [infer, if_neg named]
  simp only [ask, failed]

theorem stated?_eq_some
    (explicit : value.source.isExplicit = true)
    (recognized : convention.readOption? value.raw = some verdict) :
    stated? convention value = some (verdict, value.source) := by
  rw [stated?, if_pos explicit, recognized]
  rfl

theorem stated?_eq_none_iff :
    stated? convention value = none ↔
      value.source.isExplicit = false ∨ convention.readOption? value.raw = none := by
  rw [stated?]
  split <;> simp_all

/-- A stated preference leaves only the detail to be looked up. -/
theorem infer_of_stated
    {engine : Engine τ ω}
    {group : Group}
    {current : Artifact}
    {state : EngineState τ ω}
    (named : current.path ≠ "")
    (found : engine.store.get current.path convention.optionKey state.preferences =
      (.ok (some value), next))
    (explicit : value.source.isExplicit = true)
    (recognized : convention.readOption? value.raw = some verdict) :
    engine.infer convention group current state =
      let detail :=
        engine.configuredDetail convention current.path { state with preferences := next }
      (detail.1.map (configured convention (verdict, value.source)), detail.2) := by
  rw [infer, if_neg named]
  simp only [ask, found, Option.bind_some, stated?_eq_some explicit recognized]

/-- The detail has no question of its own, except for adjacent backing fields. -/
theorem configuredDetail_of_ne
    {engine : Engine τ ω}
    {state : EngineState τ ω}
    (other : convention ≠ .backingFieldAdjacency) :
    engine.configuredDetail convention path state = (.ok none, state) := by
  rw [configuredDetail]
  exact other

/-- A stated preference is the answer, once the blank line is looked up where there is one. -/
theorem exists_settles_of_stated
    (named : path ≠ "")
    (found : store.get path convention.optionKey preferences = (.ok (some value), next))
    (explicit : value.source.isExplicit = true)
    (recognized : convention.readOption? value.raw = some verdict)
    (further : convention = .backingFieldAdjacency →
      ∃ blank, (store.get path Convention.blankLineKey next).1 = .ok blank) :
    ∃ detail last, store.Settles convention path preferences
      (.ok (configured convention (verdict, value.source) detail)) last := by
  by_cases adjacency : convention = .backingFieldAdjacency
  · subst adjacency
    obtain ⟨blank, looked⟩ := further rfl
    refine ⟨some ((blank.bind fun value => Convention.readBool? value.raw).getD false),
      (store.get path Convention.blankLineKey next).2, ?_⟩
    rintro ω rules world group current state rfl rfl
    rw [infer_of_stated named found explicit recognized]
    simp only [configuredDetail, ask, looked, Except.map]
  · refine ⟨none, next, ?_⟩
    rintro ω rules world group current state rfl rfl
    rw [infer_of_stated named found explicit recognized, configuredDetail_of_ne adjacency]
    rfl

theorem settles_of_detail_failure
    (named : path ≠ "")
    (found : store.get path Convention.backingFieldAdjacency.optionKey preferences =
      (.ok (some value), next))
    (explicit : value.source.isExplicit = true)
    (recognized : Convention.backingFieldAdjacency.readOption? value.raw = some verdict)
    (failed : store.get path Convention.blankLineKey next = (.error failure, last)) :
    store.Settles .backingFieldAdjacency path preferences (.error failure) last := by
  rintro ω rules world group current state rfl rfl
  rw [infer_of_stated named found explicit recognized]
  simp only [configuredDetail, ask, failed, Except.map]

/-! ## What a store leaves to the search -/

/-- Where nothing usable is stated, a search answers. -/
theorem infer_of_unstated
    {engine : Engine τ ω}
    {group : Group}
    {current : Artifact}
    {state : EngineState τ ω}
    {value? : Option OptionValue}
    (named : current.path ≠ "")
    (found : engine.store.get current.path convention.optionKey state.preferences =
      (.ok value?, next))
    (unstated : ∀ value, value? = some value →
      value.source.isExplicit = false ∨ convention.readOption? value.raw = none) :
    engine.infer convention group current state =
      engine.searchFor convention group current { state with preferences := next } := by
  have nothing : value?.bind (stated? convention) = none :=
    Option.bind_eq_none_iff.mpr fun value present =>
      stated?_eq_none_iff.mpr (unstated value present)
  rw [infer, if_neg named]
  simp only [ask, found, nothing]

end Engine

/-! ## The rule -/

/--
What a store says about a convention at a path decides alone or not at all.  A
missing path is refused, and a lookup that fails is the answer, before anything
but the store is asked.  A value that is explicit and recognized is the answer
for every group, rules and world, and leaves trees and pools alone.  Any other
value is as good as none: the answer is that of the search, and a store without
the value gives the same one.
-/
theorem PreferenceStore.decides_alone_or_not_at_all
    (store : PreferenceStore τ)
    (convention : Convention)
    (preferences : τ) :
    store.Settles convention "" preferences
      (.error (.invalidArgument "artifact path must not be empty")) preferences ∧
    ∀ path, path ≠ "" →
      let own := store.get path convention.optionKey preferences
      let further := store.get path Convention.blankLineKey own.2
      (∀ failure, own.1 = .error failure →
        store.Settles convention path preferences (.error failure) own.2) ∧
      (∀ value verdict, own.1 = .ok (some value) → value.source.isExplicit = true →
        convention.readOption? value.raw = some verdict →
          (∀ failure, convention = .backingFieldAdjacency → further.1 = .error failure →
            store.Settles convention path preferences (.error failure) further.2) ∧
          ((convention = .backingFieldAdjacency → ∃ blank, further.1 = .ok blank) →
            ∃ outcome last,
              (verdict = .yes ∧ (∃ detail, outcome = .yes detail) ∨
                verdict = .no ∧ outcome = .no) ∧
              store.Settles convention path preferences
                (.ok ⟨outcome, .configured convention.optionKey value.source.text, []⟩) last)) ∧
      (∀ value?, own.1 = .ok value? →
        (∀ value, value? = some value →
          value.source.isExplicit = false ∨ convention.readOption? value.raw = none) →
        ∀ (ω : Type) (rules : Rules) (world : World ω) (group : Group) (current : Artifact)
          (state : EngineState τ ω), current.path = path → state.preferences = preferences →
          let searched := Search.run world convention.classifier rules group current
            ⟨state.pools convention, state.cells, state.world⟩
          Engine.infer ⟨store, rules, world⟩ convention group current state =
            (searched.1,
              { state.setPool convention searched.2.pool with
                preferences := own.2
                cells := searched.2.cells
                world := searched.2.world }) ∧
          ∀ (υ : Type) (other : PreferenceStore υ) (without : υ),
            (other.get path convention.optionKey without).1 = .ok none →
            (Engine.infer ⟨other, rules, world⟩ convention group current
              ⟨without, state.pools, state.cells, state.world⟩).1 = searched.1) := by
  refine ⟨Engine.settles_of_empty_path, fun path named => ⟨?_, ?_, ?_⟩⟩
  · intro failure failed
    exact Engine.settles_of_failure named (Prod.ext failed rfl)
  · intro value verdict found explicit recognized
    refine ⟨?_, fun further => ?_⟩
    · rintro failure rfl failed
      exact Engine.settles_of_detail_failure named (Prod.ext found rfl) explicit recognized
        (Prod.ext failed rfl)
    · obtain ⟨detail, last, settles⟩ :=
        Engine.exists_settles_of_stated named (Prod.ext found rfl) explicit recognized further
      refine ⟨.ofVerdict verdict detail, last, ?_, settles⟩
      obtain rfl | rfl := Convention.eq_yes_or_eq_no_of_readOption? recognized
      · exact .inl ⟨rfl, detail, rfl⟩
      · exact .inr ⟨rfl, rfl⟩
  · rintro value? found unstated ω rules world group current state rfl rfl
    refine ⟨?_, fun υ other without silent => ?_⟩
    · rw [Engine.infer_of_unstated named (Prod.ext found rfl) unstated]
      rfl
    · rw [Engine.infer_of_unstated named (Prod.ext silent rfl) (by simp)]
      rfl

theorem PreferenceStore.decides_alone_or_not_at_all_sample :
    let adjacency := Convention.backingFieldAdjacency
    let qualify := Convention.qualifyFieldAccess
    let clear := Properties.empty.state .host adjacency.optionKey "TRUE:warning"
    let vague := Properties.empty.state .host qualify.optionKey "sometimes"
    let current : Artifact := ⟨3, "app/Main.cs", ["app"], .unavailable⟩
    let answer := fun properties =>
      (Engine.infer ⟨inMemory, .none, Search.sampleWorld⟩ qualify Search.sampleGroup current
        ⟨properties, fun _ => .make 1, [], ()⟩).1
    (∃ detail last, inMemory.Settles adjacency current.path clear
      (.ok ⟨.yes detail, .configured adjacency.optionKey "host", []⟩) last) ∧
    answer vague = answer (vague.erase (plainKey qualify.optionKey)) ∧
    answer vague = .ok ⟨.mixed, .artifact "app/sub/Low.cs", ["app/sub/Low.cs"]⟩ := by
  intro adjacency qualify clear vague current answer
  have named : current.path ≠ "" := by decide
  obtain ⟨-, settled, -⟩ :=
    (decides_alone_or_not_at_all inMemory adjacency clear).2 current.path named
  obtain ⟨-, -, unsettled⟩ :=
    (decides_alone_or_not_at_all inMemory qualify vague).2 current.path named
  have searched := unsettled (some ⟨"sometimes", .host⟩) (by decide +kernel)
    (fun value found => .inr (by cases found; decide +kernel))
    Unit .none Search.sampleWorld Search.sampleGroup current
    ⟨vague, fun _ => .make 1, [], ()⟩ rfl rfl
  refine ⟨?_, ?_, ?_⟩
  · obtain ⟨outcome, last, ⟨-, detail, rfl⟩ | ⟨impossible, -⟩, settles⟩ :=
      (settled ⟨"TRUE", .host⟩ .yes (by decide +kernel) rfl (by decide +kernel)).2
        fun _ => ⟨none, by decide +kernel⟩
    · exact ⟨detail, last, settles⟩
    · cases impossible
  · exact (congrArg Prod.fst searched.1).trans
      (searched.2 Properties inMemory (vague.erase (plainKey qualify.optionKey))
        (by decide +kernel)).symm
  · exact (congrArg Prod.fst searched.1).trans (by decide +kernel)

end HouseStyle
