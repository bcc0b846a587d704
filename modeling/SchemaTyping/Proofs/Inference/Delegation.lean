import SchemaTyping.Model.Cast

/-!
# Where a cast that is left to other classes ends

A class that casts may leave the cast to another class, and that one to a
third. The classes and these links are a graph in which a chain may be of any
length or run in a circle, and what is read and what may be assigned are
computed along it. `Registry.Leads` is that graph, and `Registry.Prescribes`
says what a class at the end of a chain prescribes; neither knows of a bound.

Up to the bound of eight links, the types of a cast are those that the class
at the end prescribes (`Caster.types_of_delegation`). It is one class for both
types: what is read and what may be assigned never come from different ends.
Where eight links lead to a class that leaves the cast to a ninth, nothing is
known of either type, and one of the two always holds, so that no circle is
without an answer.
-/

namespace SchemaTyping

namespace Registry

variable {registry : Registry} {links : Nat} {className next last : String}

/-! ## Chains of classes -/

/-- **A chain of classes**: each but the last leaves the cast to the next. -/
inductive Leads (registry : Registry) : Nat → String → String → Prop
  | here (className : String) : Leads registry 0 className className
  | link {links : Nat} {className next last : String}
      (left : registry.castClass? className = some (.castable next))
      (rest : Leads registry links next last) :
      Leads registry (links + 1) className last

/-- **What a class prescribes at the end of a chain**: the type that is read
and the type that may be assigned, where the column is read as `stored` and
accepts `accepted`. -/
inductive Prescribes (registry : Registry) (stored accepted : PropertyType) :
    String → PropertyType → PropertyType → Prop
  | value {last : String} {get : PropertyType}
      (cast : registry.castClass? last = some (.valueObject get none)) :
      Prescribes registry stored accepted last get get
  | valueAndSet {last : String} {get set : PropertyType}
      (cast : registry.castClass? last = some (.valueObject get (some set))) :
      Prescribes registry stored accepted last get (.union [get, set])
  | inbound {last : String}
      (cast : registry.castClass? last = some (.inbound none)) :
      Prescribes registry stored accepted last stored accepted
  | inboundSet {last : String} {set : PropertyType}
      (cast : registry.castClass? last = some (.inbound (some set))) :
      Prescribes registry stored accepted last stored set
  | plain {last : String} (cast : registry.castClass? last = some .plain) :
      Prescribes registry stored accepted last
        (.instanceOf last) (.instanceOf last)
  | model {last : String} (cast : registry.castClass? last = none)
      (model : registry.isModel last = true) :
      Prescribes registry stored accepted last
        (.instanceOf last) (.instanceOf last)
  | unknown {last : String} (cast : registry.castClass? last = none)
      (model : registry.isModel last = false) :
      Prescribes registry stored accepted last .mixed .mixed

/-- The class does not leave the cast to another. -/
def EndsChain (registry : Registry) (className : String) : Prop :=
  ∀ next, registry.castClass? className ≠ some (.castable next)

variable {stored accepted readable writable : PropertyType}

/-- A class that prescribes types leaves the cast to none. -/
theorem Prescribes.endsChain
    (h : registry.Prescribes stored accepted last readable writable) :
    registry.EndsChain last := by
  intro next hnext
  cases h with
  | value cast | valueAndSet cast | inbound cast | inboundSet cast | plain cast
  | model cast _ | unknown cast _ => cases cast.symm.trans hnext

/-- Every class at which a chain can end prescribes types. -/
theorem EndsChain.exists_prescribes (h : registry.EndsChain last)
    (stored accepted : PropertyType) :
    ∃ readable writable,
      registry.Prescribes stored accepted last readable writable := by
  cases hcast : registry.castClass? last with
  | none =>
    cases hmodel : registry.isModel last with
    | true => exact ⟨_, _, .model hcast hmodel⟩
    | false => exact ⟨_, _, .unknown hcast hmodel⟩
  | some cast =>
    match cast with
    | .valueObject _ none => exact ⟨_, _, .value hcast⟩
    | .valueObject _ (some _) => exact ⟨_, _, .valueAndSet hcast⟩
    | .inbound none => exact ⟨_, _, .inbound hcast⟩
    | .inbound (some _) => exact ⟨_, _, .inboundSet hcast⟩
    | .castable next => exact absurd hcast (h next)
    | .plain => exact ⟨_, _, .plain hcast⟩

/-- A class leaves the cast to another, or a chain ends at it. -/
theorem exists_next_or_endsChain (registry : Registry) (className : String) :
    (∃ next, registry.castClass? className = some (.castable next))
      ∨ registry.EndsChain className := by
  cases hcast : registry.castClass? className with
  | none =>
    right
    intro next hnext
    cases hcast.symm.trans hnext
  | some cast =>
    cases cast with
    | castable next => exact .inl ⟨next, rfl⟩
    | valueObject | inbound | plain =>
      right
      intro next hnext
      cases hcast.symm.trans hnext

/-- **A chain ends, or it goes on**: within any bound it comes to an end, or
there is a chain of one link more. -/
theorem ends_or_leads (registry : Registry) (bound : Nat) (className : String) :
    (∃ links last, links ≤ bound ∧ registry.Leads links className last
        ∧ registry.EndsChain last)
      ∨ ∃ last, registry.Leads (bound + 1) className last := by
  induction bound generalizing className with
  | zero =>
    rcases registry.exists_next_or_endsChain className with ⟨next, hnext⟩ | hend
    · exact .inr ⟨next, .link hnext (.here next)⟩
    · exact .inl ⟨0, className, Nat.le_refl 0, .here className, hend⟩
  | succ bound ih =>
    rcases registry.exists_next_or_endsChain className with ⟨next, hnext⟩ | hend
    · rcases ih next with ⟨links, last, hlinks, hlead, hend⟩ | ⟨last, hlead⟩
      · exact .inl ⟨links + 1, last, Nat.succ_le_succ hlinks,
          .link hnext hlead, hend⟩
      · exact .inr ⟨last, .link hnext hlead⟩
    · exact .inl ⟨0, className, Nat.zero_le _, .here className, hend⟩

/-- **No chain goes on behind its end**: a class has one next class, so a
longer chain runs through the same classes. -/
theorem Leads.le_of_endsChain {more : Nat} {other : String}
    (h : registry.Leads links className last) (hend : registry.EndsChain last)
    (hother : registry.Leads more className other) : more ≤ links := by
  induction h generalizing more with
  | here className =>
    cases hother with
    | here => exact Nat.le_refl 0
    | link left rest => exact absurd left (hend _)
  | link left rest ih =>
    cases hother with
    | here => exact Nat.zero_le _
    | link left' rest' =>
      cases left.symm.trans left'
      exact Nat.succ_le_succ (ih hend rest')

end Registry

/-! ## Following a chain up to a bound -/

namespace Caster

variable {caster : Caster} {links : Nat} {cast className last : String}
variable {stored accepted readable writable : PropertyType}

/-- What the registry knows of a class counts before anything else. -/
theorem castClass?_of_registry {found : CastClass}
    (h : caster.registry.castClass? className = some found) :
    caster.castClass? className = some found := by
  unfold castClass?
  rw [h]
  rfl

/-- A class that the registry does not know as a cast counts if it is a
model. -/
theorem castClass?_of_none (h : caster.registry.castClass? className = none) :
    caster.castClass? className
      = if caster.registry.isModel className then some .plain else none := by
  unfold castClass?
  rw [h]
  rfl

/-- Following a chain takes one link off the bound for each of its own. -/
theorem follow_of_leads (h : caster.registry.Leads links className last)
    (left : Nat) :
    caster.follow (left + links) className = caster.follow left last := by
  induction h with
  | here className => rfl
  | link hnext rest ih =>
    rw [← ih, ← Nat.add_assoc, follow, castClass?_of_registry hnext]

/-- A chain that is longer than the bound leads to nothing. -/
theorem follow_eq_none (h : caster.registry.Leads (links + 1) className last) :
    caster.follow links className = none := by
  induction links generalizing className with
  | zero =>
    cases h with
    | link hnext rest => rw [follow, castClass?_of_registry hnext]
  | succ links ih =>
    cases h with
    | link hnext rest =>
      rw [follow, castClass?_of_registry hnext]
      exact ih rest

/-- **The class at the end of a chain decides**: the two types are those that
it prescribes, if following stops at it. -/
theorem types_of_prescribes
    (h : caster.registry.Prescribes stored accepted last readable writable)
    (left : Nat) (hstop : caster.endpoint? className = caster.follow left last) :
    caster.classReadable className stored = readable
      ∧ caster.classWritable className accepted = writable := by
  unfold classReadable classWritable
  rw [hstop]
  cases h with
  | value cast | valueAndSet cast | inbound cast | inboundSet cast | plain cast =>
    rw [follow, castClass?_of_registry cast]
    exact ⟨rfl, rfl⟩
  | model cast model =>
    rw [follow, castClass?_of_none cast, if_pos model]
    exact ⟨rfl, rfl⟩
  | unknown cast model =>
    rw [follow, castClass?_of_none cast, model, if_neg Bool.false_ne_true]
    exact ⟨rfl, rfl⟩

/-- **A cast that is left to other classes has the types that the class at the
end prescribes**, if at most eight links lead there. If there are more, nothing
is known of either type. One of the two is the case, and never both. -/
theorem types_of_delegation (caster : Caster)
    (hcast : CastKind.ofText cast = .byClass className)
    (stored accepted : PropertyType) :
    (∀ links last readable writable, links ≤ 8 →
        caster.registry.Leads links className last →
        caster.registry.Prescribes stored accepted last readable writable →
        caster.readableType cast stored = readable
          ∧ caster.writableType cast accepted = writable)
      ∧ (∀ last, caster.registry.Leads 9 className last →
        caster.readableType cast stored = .mixed
          ∧ caster.writableType cast accepted = .mixed)
      ∧ ((∃ links last readable writable, links ≤ 8
            ∧ caster.registry.Leads links className last
            ∧ caster.registry.Prescribes stored accepted last readable writable)
          ↔ ¬ ∃ last, caster.registry.Leads 9 className last) := by
  have hreadable : caster.readableType cast stored
      = caster.classReadable className stored := by
    unfold readableType
    rw [hcast]
  have hwritable : caster.writableType cast accepted
      = caster.classWritable className accepted := by
    unfold writableType
    rw [hcast]
  rw [hreadable, hwritable]
  refine ⟨?_, ?_, ?_, ?_⟩
  · intro links last readable writable hlinks hlead hprescribes
    refine types_of_prescribes hprescribes (8 - links) ?_
    have hfollow := follow_of_leads hlead (8 - links)
    rwa [Nat.sub_add_cancel hlinks] at hfollow
  · intro last hlead
    have hnone : caster.endpoint? className = none := follow_eq_none hlead
    unfold classReadable classWritable
    rw [hnone]
    exact ⟨rfl, rfl⟩
  · rintro ⟨links, last, readable, writable, hlinks, hlead, hprescribes⟩
      ⟨other, hmore⟩
    have hle := hlead.le_of_endsChain hprescribes.endsChain hmore
    omega
  · intro hnone
    obtain ⟨links, last, hlinks, hlead, hend⟩ :=
      (caster.registry.ends_or_leads 8 className).resolve_right hnone
    obtain ⟨readable, writable, hprescribes⟩ :=
      hend.exists_prescribes stored accepted
    exact ⟨links, last, readable, writable, hlinks, hlead, hprescribes⟩

/-! A chain of just eight links, from one spelling of a name to another, that
ends at a model; and a class that leaves the cast to itself. -/

/-- The registry of the chain and of the circle. -/
def chainRegistry : Registry where
  models := .ofList [("money", {
    model := { className := "Money" }, isAbstract := false, instantiable := true,
    methods := .empty, propertyTags := [] })]
  castClasses := .ofList [("a", .castable "B"), ("b", .castable "c"),
    ("c", .castable "\\D"), ("d", .castable "E"), ("e", .castable "F"),
    ("f", .castable " g "), ("g", .castable "H"), ("h", .castable "MONEY"),
    ("ring", .castable "Ring")]

theorem types_of_delegation_chain :
    let caster : Caster := ⟨.mySql, defaultDateClass, chainRegistry⟩
    CastKind.ofText "encrypted:\\A:x" = .byClass "A"
      ∧ chainRegistry.Leads 8 "A" "MONEY"
      ∧ chainRegistry.Prescribes .string .int "MONEY"
        (.instanceOf "MONEY") (.instanceOf "MONEY")
      ∧ (caster.readableType "encrypted:\\A:x" .string = .instanceOf "MONEY"
        ∧ caster.writableType "encrypted:\\A:x" .int = .instanceOf "MONEY")
      ∧ CastKind.ofText "RING" = .byClass "RING"
      ∧ chainRegistry.Leads 9 "RING" "Ring"
      ∧ (caster.readableType "RING" .string = .mixed
        ∧ caster.writableType "RING" .int = .mixed) := by
  intro caster
  have hchain : CastKind.ofText "encrypted:\\A:x" = .byClass "A" := by
    decide +kernel
  have hring : CastKind.ofText "RING" = .byClass "RING" := by decide +kernel
  have hleads : chainRegistry.Leads 8 "A" "MONEY" :=
    .link (show chainRegistry.castClass? "A" = some (.castable "B") by decide +kernel)
    <| .link (show chainRegistry.castClass? "B" = some (.castable "c") by decide +kernel)
    <| .link (show chainRegistry.castClass? "c" = some (.castable "\\D") by decide +kernel)
    <| .link (show chainRegistry.castClass? "\\D" = some (.castable "E") by decide +kernel)
    <| .link (show chainRegistry.castClass? "E" = some (.castable "F") by decide +kernel)
    <| .link (show chainRegistry.castClass? "F" = some (.castable " g ") by decide +kernel)
    <| .link (show chainRegistry.castClass? " g " = some (.castable "H") by decide +kernel)
    <| .link (show chainRegistry.castClass? "H" = some (.castable "MONEY") by decide +kernel)
    <| .here "MONEY"
  have hround : chainRegistry.castClass? "Ring" = some (.castable "Ring") := by
    decide +kernel
  have hfirst : chainRegistry.castClass? "RING" = some (.castable "Ring") := by
    decide +kernel
  have hrounds : ∀ links, chainRegistry.Leads links "Ring" "Ring" := fun links =>
    links.rec (.here "Ring") fun _ rest => .link hround rest
  have hcircle : chainRegistry.Leads 9 "RING" "Ring" := .link hfirst (hrounds 8)
  have hmodel : chainRegistry.Prescribes .string .int "MONEY"
      (.instanceOf "MONEY") (.instanceOf "MONEY") :=
    .model (by decide +kernel) (by decide +kernel)
  exact ⟨hchain, hleads, hmodel,
    (caster.types_of_delegation hchain .string .int).1 8 "MONEY" _ _ (by decide)
      hleads hmodel,
    hring, hcircle,
    (caster.types_of_delegation hring .string .int).2.1 "Ring" hcircle⟩

end Caster

end SchemaTyping
