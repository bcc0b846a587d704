import SchemaTyping.Proofs.Inference.Assignable
import SchemaTyping.Proofs.Model.LastItem
import SchemaTyping.Proofs.Text.Trim

/-!
# The last definition of a class

A document may define one class several times, under names that differ in the
case of letters or in the backslash of the root namespace, and a model may
declare one method several times. What is read is stored under keys, which are
made in three places from names in three states. All of it comes to one rule:
the last definition decides, as a whole. The models, the cast classes and the
methods of a model are three cases of `LastDecides`.

What a document is rejected for does not depend on keys: it is loaded if each
text of a type in it can be read, those of definitions that are overwritten
included (`Registry.exists_ofDeclarations_iff`). So the order of definitions
matters to nothing but which of them is the last of its class, and not at all
if no class is defined twice.

Class names have no blanks in them here. A blank behind the backslash of the
root namespace, `\ User`, would be dropped from the name of a model and kept in
the name that is asked for.
-/

namespace SchemaTyping

open Text PropertyType

/-! ## The texts of types -/

/-- The texts of types in what a class does as a cast. -/
def CastDeclarationKind.typeTexts : CastDeclarationKind → List String
  | .valueObject get set => get :: set.toList
  | .inbound set => set.toList
  | .castable _ | .plain => []

/-- **The texts of types in a document**: the declared return types of methods,
and what the cast classes read and accept. -/
def Declarations.typeTexts (document : Declarations) : List String :=
  document.models.flatMap (fun declaration =>
      declaration.methods.flatMap (·.returnType.toList))
    ++ document.castClasses.flatMap (·.kind.typeTexts)

/-- The text can be read as a type. -/
def IsTypeText (text : String) : Prop := ∃ type, PropertyType.read text = .ok type

theorem exists_ok_readOptionalType_iff {text : Option String} :
    (∃ type, readOptionalType text = .ok type) ↔ ∀ written ∈ text.toList, IsTypeText written := by
  cases text with
  | none => exact ⟨fun _ => List.forall_mem_nil _, fun _ => ⟨none, rfl⟩⟩
  | some text =>
    rw [Option.toList_some, List.forall_mem_singleton]
    constructor
    · rintro ⟨found, hfound⟩
      obtain ⟨type, htype, -⟩ := ok_of_map_ok hfound
      exact ⟨type, htype⟩
    · rintro ⟨type, htype⟩
      exact ⟨some type, congrArg (Except.map some) htype⟩

/-- A declared method keeps its name, and its type is what is read. -/
theorem MethodDeclaration.toMethod_eq_ok {declaration : MethodDeclaration}
    {className : String} {method : Method}
    (h : declaration.toMethod className = .ok method) :
    ∃ type, readOptionalType declaration.returnType = .ok type
      ∧ method = ⟨declaration.name, declaration.visibility, type⟩ := by
  unfold toMethod at h
  split at h
  · next type htype =>
    cases h
    exact ⟨type, htype, rfl⟩
  · cases h

theorem MethodDeclaration.exists_ok_toMethod_iff {declaration : MethodDeclaration}
    {className : String} :
    (∃ method, declaration.toMethod className = .ok method)
      ↔ ∀ written ∈ declaration.returnType.toList, IsTypeText written := by
  rw [← exists_ok_readOptionalType_iff, toMethod]
  cases readOptionalType declaration.returnType with
  | ok type => exact ⟨fun _ => ⟨type, rfl⟩, fun _ => ⟨_, rfl⟩⟩
  | error error => exact ⟨fun ⟨_, h⟩ => (nomatch h), fun ⟨_, h⟩ => (nomatch h)⟩

theorem ModelDeclaration.exists_ok_toEntry_iff {declaration : ModelDeclaration} :
    (∃ entry, declaration.toEntry = .ok entry)
      ↔ ∀ written ∈ declaration.methods.flatMap (·.returnType.toList), IsTypeText written := by
  rw [toEntry, exists_ok_bind_ok_iff, exists_ok_mapM_iff, List.forall_mem_flatMap]
  exact forall₂_congr fun _ _ => MethodDeclaration.exists_ok_toMethod_iff

theorem CastDeclarationKind.exists_ok_toCastClass_iff {kind : CastDeclarationKind} :
    (∃ cast, kind.toCastClass = .ok cast) ↔ ∀ written ∈ kind.typeTexts, IsTypeText written := by
  cases kind with
  | valueObject get set =>
    rw [toCastClass, exists_ok_bind_iff, typeTexts, List.forall_mem_cons,
      ← exists_ok_readOptionalType_iff, IsTypeText, ← exists_and_right]
    exact exists_congr fun type => and_congr_right fun _ => exists_ok_bind_ok_iff
  | inbound set =>
    rw [toCastClass, exists_ok_bind_ok_iff, typeTexts, exists_ok_readOptionalType_iff]
  | castable caster => exact ⟨fun _ => List.forall_mem_nil _, fun _ => ⟨_, rfl⟩⟩
  | plain => exact ⟨fun _ => List.forall_mem_nil _, fun _ => ⟨_, rfl⟩⟩

/-! ## Loading a document -/

/-- The key under which a declared model is stored. -/
def ModelDeclaration.key (declaration : ModelDeclaration) : String :=
  classKey (withoutRoot declaration.className)

/-- The key under which a declared cast class is stored. -/
def CastDeclaration.key (declaration : CastDeclaration) : String :=
  classKey declaration.className

namespace Registry

variable {document other : Declarations} {registry next : Registry}

theorem exists_ok_addModel_iff {declaration : ModelDeclaration} :
    (∃ next, registry.addModel declaration = .ok next)
      ↔ ∃ entry, declaration.toEntry = .ok entry :=
  exists_ok_bind_ok_iff

theorem exists_ok_addCast_iff {declaration : CastDeclaration} :
    (∃ next, registry.addCast declaration = .ok next)
      ↔ ∃ cast, declaration.kind.toCastClass = .ok cast := by
  rw [addCast]
  cases declaration.kind.toCastClass with
  | ok cast => exact ⟨fun _ => ⟨cast, rfl⟩, fun _ => ⟨_, rfl⟩⟩
  | error error => exact ⟨fun ⟨_, h⟩ => (nomatch h), fun ⟨_, h⟩ => (nomatch h)⟩

/-- **A document is loaded** if each text of a type in it can be read, wherever
it stands. -/
theorem exists_ofDeclarations_iff :
    (∃ registry, ofDeclarations document = .ok registry)
      ↔ ∀ text ∈ document.typeTexts, IsTypeText text := by
  have hmodels : (∃ last, document.models.foldlM addModel empty = .ok last) ↔ _ :=
    exists_ok_foldlM_iff (fun _ declaration =>
      exists_ok_addModel_iff.trans declaration.exists_ok_toEntry_iff) empty
  have hcasts (first : Registry) :
      (∃ last, document.castClasses.foldlM addCast first = .ok last) ↔ _ :=
    exists_ok_foldlM_iff (fun _ declaration =>
      exists_ok_addCast_iff.trans declaration.kind.exists_ok_toCastClass_iff) first
  rw [ofDeclarations, exists_ok_bind_iff, Declarations.typeTexts, List.forall_mem_append,
    List.forall_mem_flatMap, List.forall_mem_flatMap, ← hmodels, ← exists_and_right]
  exact exists_congr fun registry => and_congr_right fun _ => hcasts registry

/-- A model is stored under the key of its class. -/
theorem addModel_stores {declaration : ModelDeclaration}
    (h : registry.addModel declaration = .ok next) :
    ∃ entry, declaration.toEntry = .ok entry
      ∧ next.models = registry.models.insert declaration.key entry := by
  obtain ⟨entry, hentry, heq⟩ := ok_of_bind_ok h
  cases heq
  obtain ⟨methods, -, heq⟩ := ok_of_bind_ok hentry
  cases heq
  exact ⟨_, hentry, rfl⟩

/-- A cast class is stored under the key of its name, and no model with it. -/
theorem addCast_stores {declaration : CastDeclaration}
    (h : registry.addCast declaration = .ok next) :
    next.models = registry.models
      ∧ ∃ cast, declaration.kind.toCastClass = .ok cast
        ∧ next.castClasses = registry.castClasses.insert declaration.key cast := by
  unfold addCast at h
  split at h
  · next cast hcast =>
    cases h
    exact ⟨rfl, cast, hcast, rfl⟩
  · cases h

theorem lastDecides_models (h : ofDeclarations document = .ok registry) :
    LastDecides ModelDeclaration.key ModelDeclaration.toEntry document.models .empty
      registry.models := by
  obtain ⟨models, hmodels, hcasts⟩ := ok_of_bind_ok h
  have hsame : registry.models = models.models :=
    holds_of_foldlM_ok (P := fun state : Registry => state.models = models.models)
      (fun hstate hnext => (addCast_stores hnext).1.trans hstate) rfl hcasts
  rw [hsame]
  exact lastDecides_of_foldlM Registry.models hmodels addModel_stores

theorem lastDecides_castClasses (h : ofDeclarations document = .ok registry) :
    LastDecides CastDeclaration.key (·.kind.toCastClass) document.castClasses .empty
      registry.castClasses := by
  obtain ⟨models, hmodels, hcasts⟩ := ok_of_bind_ok h
  have hnone : models.castClasses = .empty :=
    holds_of_foldlM_ok (P := fun state : Registry => state.castClasses = .empty)
      (fun hstate hnext => by
        obtain ⟨entry, -, heq⟩ := ok_of_bind_ok hnext
        cases heq
        exact hstate) rfl hmodels
  rw [← hnone]
  exact lastDecides_of_foldlM Registry.castClasses hcasts
    fun hnext => (addCast_stores hnext).2

theorem lastDecides_methods {declaration : ModelDeclaration} {entry : ModelEntry}
    (h : declaration.toEntry = .ok entry) :
    LastDecides (fun method => methodKey method.name)
      (·.toMethod (withoutRoot declaration.className)) declaration.methods .empty
      entry.methods := by
  obtain ⟨methods, hmethods, heq⟩ := ok_of_bind_ok h
  cases heq
  have hstored := foldlM_insert_of_mapM_ok (fun method => methodKey method.name) hmethods .empty
  show LastDecides _ _ _ _ ((methods.map fun method => (methodKey method.name, method)).foldl
    (fun stored entry => stored.insert entry.1 entry.2) .empty)
  rw [List.foldl_map]
  refine lastDecides_of_foldlM (fun stored => stored) hstored fun {state item next} hnext => ?_
  obtain ⟨method, hmethod, rfl⟩ := ok_of_map_ok hnext
  obtain ⟨type, -, rfl⟩ := MethodDeclaration.toMethod_eq_ok hmethod
  exact ⟨_, hmethod, rfl⟩

end Registry

/-! ## Names of classes -/

/-- No character of the name is blank. -/
def Unspaced (name : String) : Prop := ∀ c ∈ name.toList, isBlank c = false

instance : DecidablePred Unspaced :=
  fun name => List.decidableBAll (fun c : Char => isBlank c = false) name.toList

/-- **A name means a class**: they are equal without the backslashes of the root
namespace, the blanks around the name and the case of ASCII letters. -/
def meansClass (name className : String) : Bool :=
  asciiEqual ((trim name.toList).dropWhile (· == '\\'))
    (className.toList.dropWhile (· == '\\'))

theorem trim_of_unspaced {text : List Char} (h : ∀ c ∈ text, isBlank c = false) :
    trim text = text := by
  have hends : EndsSolid text := fun c hc => h c (List.mem_of_getLast? hc)
  exact hends.trim_eq fun c hc => h c (List.mem_of_head? hc)

section Names

variable {className : String}

theorem classKey_of_unspaced (h : Unspaced className) :
    classKey className
      = String.ofList (asciiLower (className.toList.dropWhile (· == '\\'))) := by
  rw [classKey, onString, trim_of_unspaced h]

/-- The backslashes of the root namespace are dropped once and for all. -/
theorem classKey_withoutRoot (h : Unspaced className) :
    classKey (withoutRoot className) = classKey className := by
  have hroot : Unspaced (withoutRoot className) := by
    intro c hc
    rw [withoutRoot, onString, String.toList_ofList] at hc
    exact h c ((List.dropWhile_sublist _).mem hc)
  rw [classKey_of_unspaced hroot, classKey_of_unspaced h, withoutRoot, onString,
    String.toList_ofList, List.dropWhile_idempotent]

/-- A name finds a class by its key if it means the class. -/
theorem classKey_beq (h : Unspaced className) (name : String) :
    (classKey className == classKey name) = meansClass name className := by
  rw [classKey_of_unspaced h, Bool.eq_iff_iff, beq_iff_eq, classKey, onString,
    String.ofList_inj, meansClass, asciiEqual, beq_iff_eq]
  exact eq_comm

theorem methodKey_beq (method name : String) :
    (methodKey method == methodKey name) = asciiEqual name.toList method.toList := by
  rw [Bool.eq_iff_iff, beq_iff_eq, methodKey, methodKey, onString, onString,
    String.ofList_inj, asciiEqual, beq_iff_eq]
  exact eq_comm

end Names

/-! ## Definitions -/

namespace Declarations

/-- No class that the document defines has a blank in its name. -/
structure Unspaced (document : Declarations) : Prop where
  models : ∀ declaration ∈ document.models, SchemaTyping.Unspaced declaration.className
  castClasses : ∀ declaration ∈ document.castClasses,
    SchemaTyping.Unspaced declaration.className

/-- **The last definition of a model** that the name means. -/
def model? (document : Declarations) (name : String) : Option ModelDeclaration :=
  document.models.findRev? fun declaration => meansClass name declaration.className

/-- **The last definition of a cast class** that the name means. -/
def castClass? (document : Declarations) (name : String) : Option CastDeclaration :=
  document.castClasses.findRev? fun declaration => meansClass name declaration.className

end Declarations

/-- **The last method of a model** with that name, ASCII case apart. -/
def ModelDeclaration.method? (declaration : ModelDeclaration) (name : String) :
    Option MethodDeclaration :=
  declaration.methods.findRev? fun method => asciiEqual name.toList method.name.toList

/-! ## What a registry answers -/

namespace Registry

variable {document other : Declarations} {registry : Registry} {name : String}
variable {declaration : ModelDeclaration} {entry : ModelEntry}

/-- **The answers on a class that a definition gives**, and no other. -/
structure Reflects (registry : Registry) (name : String)
    (declaration : ModelDeclaration) : Prop where
  isModel : registry.isModel name = true
  isAbstract : registry.isAbstract name = declaration.isAbstract
  instantiate : registry.instantiate name
    = if declaration.isAbstract || !declaration.instantiable then
        .error (.notInstantiable (withoutRoot declaration.className))
      else .ok declaration.toModel
  hasTag : ∀ property,
    registry.hasTag name property = declaration.propertyTags.contains property
  method : ∀ method, match declaration.method? method with
    | some found => ∃ type, readOptionalType found.returnType = .ok type
        ∧ registry.method? name method = some ⟨found.name, found.visibility, type⟩
    | none => registry.method? name method = none

/-- **The answers on a class that is no model.** -/
structure KnowsNoModel (registry : Registry) (name : String) : Prop where
  isModel : registry.isModel name = false
  isAbstract : registry.isAbstract name = false
  instantiate : registry.instantiate name = .error (.notFound name)
  hasTag : ∀ property, registry.hasTag name property = false
  method : ∀ method, registry.method? name method = none

theorem knowsNoModel_of_entry? (h : registry.entry? name = none) :
    registry.KnowsNoModel name where
  isModel := by rw [Registry.isModel, h, Option.isSome_none]
  isAbstract := by rw [Registry.isAbstract, h, Option.any_none]
  instantiate := by rw [Registry.instantiate, h]
  hasTag := fun property => by rw [Registry.hasTag, h, Option.any_none]
  method := fun method => by rw [Registry.method?, h, Option.bind_none]

theorem reflects_of_entry? (h : registry.entry? name = some entry)
    (hentry : declaration.toEntry = .ok entry) : registry.Reflects name declaration := by
  have hmethods := lastDecides_methods hentry
  obtain ⟨methods, -, heq⟩ := ok_of_bind_ok hentry
  cases heq
  refine ⟨?_, ?_, ?_, fun property => ?_, fun method => ?_⟩
  · rw [Registry.isModel, h, Option.isSome_some]
  · rw [Registry.isAbstract, h, Option.any_some]
  · rw [Registry.instantiate, h]
    rfl
  · rw [Registry.hasTag, h, Option.any_some]
  · have hlast : declaration.methods.findRev? (fun found =>
        methodKey found.name == methodKey method) = declaration.method? method :=
      findRev?_congr fun found _ => methodKey_beq found.name method
    have hdecides := hmethods (methodKey method)
    rw [hlast] at hdecides
    rw [Registry.method?, h, Option.bind_some]
    cases hfound : declaration.method? method with
    | none =>
      rw [hfound] at hdecides
      exact hdecides
    | some found =>
      rw [hfound] at hdecides
      obtain ⟨_, hread, hfind⟩ := hdecides
      obtain ⟨type, htype, rfl⟩ := MethodDeclaration.toMethod_eq_ok hread
      exact ⟨type, htype, hfind⟩

/-- **The last definition of a model** is what a loaded registry answers from. -/
theorem reflects_model? (h : ofDeclarations document = .ok registry)
    (hnames : document.Unspaced) (name : String) :
    match document.model? name with
    | some declaration => registry.Reflects name declaration
    | none => registry.KnowsNoModel name := by
  have hlast : document.models.findRev? (·.key == classKey name) = document.model? name :=
    findRev?_congr fun declaration hmem => by
      rw [ModelDeclaration.key, classKey_withoutRoot (hnames.models declaration hmem),
        classKey_beq (hnames.models declaration hmem)]
  have hdecides := lastDecides_models h (classKey name)
  rw [hlast] at hdecides
  cases hfound : document.model? name with
  | none =>
    rw [hfound] at hdecides
    exact knowsNoModel_of_entry? hdecides
  | some declaration =>
    rw [hfound] at hdecides
    obtain ⟨entry, hentry, hfind⟩ := hdecides
    exact reflects_of_entry? hfind hentry

/-- **The last definition of a cast class** is what a loaded registry answers
from. -/
theorem castClass?_eq (h : ofDeclarations document = .ok registry)
    (hnames : document.Unspaced) (name : String) :
    match document.castClass? name with
    | some declaration => ∃ cast, declaration.kind.toCastClass = .ok cast
        ∧ registry.castClass? name = some cast
    | none => registry.castClass? name = none := by
  have hlast : document.castClasses.findRev? (·.key == classKey name)
      = document.castClass? name :=
    findRev?_congr fun declaration hmem => classKey_beq (hnames.castClasses declaration hmem) name
  have hdecides := lastDecides_castClasses h (classKey name)
  rw [hlast] at hdecides
  cases hfound : document.castClass? name with
  | none =>
    rw [hfound] at hdecides
    exact hdecides
  | some declaration =>
    rw [hfound] at hdecides
    exact hdecides

/-- **Only the last definitions matter** to what is loaded, and the texts of
types to whether it is. -/
theorem ofDeclarations_of_last (h : ofDeclarations document = .ok registry)
    (htexts : ∀ text, text ∈ other.typeTexts → text ∈ document.typeTexts)
    (hmodels : ∀ k, document.models.findRev? (·.key == k) = other.models.findRev? (·.key == k))
    (hcasts : ∀ k, document.castClasses.findRev? (·.key == k)
      = other.castClasses.findRev? (·.key == k)) :
    ofDeclarations other = .ok registry := by
  have hread := exists_ofDeclarations_iff.mp ⟨registry, h⟩
  obtain ⟨loaded, hloaded⟩ :=
    exists_ofDeclarations_iff.mpr fun text hmem => hread text (htexts text hmem)
  have hsameModels : registry.models = loaded.models :=
    (lastDecides_models h).unique (lastDecides_models hloaded) hmodels
  have hsameCasts : registry.castClasses = loaded.castClasses :=
    (lastDecides_castClasses h).unique (lastDecides_castClasses hloaded) hcasts
  rw [hloaded]
  cases registry
  cases loaded
  cases hsameModels
  cases hsameCasts
  rfl

/-- **Definitions of different classes** may be put in any order. -/
theorem ofDeclarations_of_perm (hmodels : document.models.Perm other.models)
    (hcasts : document.castClasses.Perm other.castClasses)
    (hmodelKeys : document.models.Pairwise fun a b => a.key ≠ b.key)
    (hcastKeys : document.castClasses.Pairwise fun a b => a.key ≠ b.key)
    (h : ofDeclarations document = .ok registry) : ofDeclarations other = .ok registry := by
  have htexts : document.typeTexts.Perm other.typeTexts :=
    (hmodels.flatMap_right _).append (hcasts.flatMap_right _)
  exact ofDeclarations_of_last h (fun text hmem => htexts.mem_iff.mpr hmem)
    (fun _ => findRev?_key_of_perm hmodels hmodelKeys)
    fun _ => findRev?_key_of_perm hcasts hcastKeys

theorem pairwise_modelKeys (h : document.Unspaced)
    (hkeys : (document.models.map fun declaration => classKey declaration.className).Nodup) :
    document.models.Pairwise fun a b => a.key ≠ b.key := by
  refine (List.pairwise_map.mp hkeys).imp_of_mem fun {first second} hfirst hsecond hne => ?_
  rw [ModelDeclaration.key, ModelDeclaration.key, classKey_withoutRoot (h.models first hfirst),
    classKey_withoutRoot (h.models second hsecond)]
  exact hne

end Registry

end SchemaTyping
