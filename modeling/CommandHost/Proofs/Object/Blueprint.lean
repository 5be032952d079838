import CommandHost.Proofs.Command.Accessors
import CommandHost.Proofs.Value.Entries
import CommandHost.World.Creation

/-!
# Trees that descriptors describe

A descriptor holds the descriptors of the children, so a list of descriptors describes a
row of trees.  `Describes` reads such a list: the labels of the trees are the descriptors
themselves, each with the class that its type asks for.

The defaults of a class are laid below a descriptor before an object is built from it.
As long as they hold none of the keys with a meaning of their own, that concerns nothing
but the data of the object: `entryText_update` and `dataOf_update` say what is read.
-/

namespace CommandHost

variable {V : Vocabulary}

/-! ## Rows of trees -/

/-- A row of trees: the first tree by its label and the trees below it, then the others. -/
inductive Grove (α : Type) where
  | nil
  | cons (label : α) (below rest : Grove α)

namespace Grove

variable {α β : Type}

/-- The labels through a function. -/
def map (change : α → β) : Grove α → Grove β
  | nil => nil
  | cons label below rest => cons (change label) (below.map change) (rest.map change)

/-- The labels at the top of the trees. -/
def roots : Grove α → List α
  | nil => []
  | cons label _ rest => label :: rest.roots

/-- All labels, each one before those below it. -/
def preorder : Grove α → List α
  | nil => []
  | cons label below rest => label :: (below.preorder ++ rest.preorder)

/-- All labels, each one after those below it, with the trees below it. -/
def postorder : Grove α → List (α × Grove α)
  | nil => []
  | cons label below rest => below.postorder ++ (label, below) :: rest.postorder

/-- The orders of a row are those of the first tree, and then those of the others. -/
theorem preorder_cons (label : α) (below rest : Grove α) :
    (cons label below rest).preorder = (cons label below nil).preorder ++ rest.preorder := by
  simp [preorder]

theorem postorder_cons (label : α) (below rest : Grove α) :
    (cons label below rest).postorder = (cons label below nil).postorder ++ rest.postorder := by
  simp [postorder]

/-- Both orders list the same labels. -/
theorem postorder_perm_preorder (grove : Grove α) :
    (grove.postorder.map Prod.fst).Perm grove.preorder := by
  induction grove with
  | nil => exact .nil
  | cons label below rest belowHypothesis restHypothesis =>
      rw [postorder, preorder, List.map_append, List.map_cons]
      exact List.perm_middle.trans ((belowHypothesis.append restHypothesis).cons label)

theorem preorder_map (change : α → β) (grove : Grove α) :
    (grove.map change).preorder = grove.preorder.map change := by
  induction grove with
  | nil => rfl
  | cons label below rest belowHypothesis restHypothesis =>
      rw [map, preorder, preorder, belowHypothesis, restHypothesis, List.map_cons,
        List.map_append]

end Grove

/-! ## Plans -/

/-- The keys of descriptors that are no data. -/
def reservedKeys : List String :=
  let keys := DescriptorKeys.standard
  [keys.id, keys.type, keys.children, keys.name]

/-- A descriptor with the class of its object. -/
structure Blueprint (V : Vocabulary) where
  kind : ObjectClass V
  given : Entries

namespace Blueprint

/-- What the descriptor gives under a key, as it is printed. -/
def text? (plan : Blueprint V) (key : String) : Option String :=
  (RuntimeObject.properValue? plan.given key).map Value.print

/-- The id that the descriptor gives, if it gives one. -/
def id? (plan : Blueprint V) : Option String := plan.text? DescriptorKeys.standard.id

/-- The data of the object: what the descriptor has besides the reserved keys, laid over the
defaults of the class. -/
def data (plan : Blueprint V) : Entries :=
  Entries.update plan.kind.defaults (RuntimeObject.dataOf plan.given)

/-- The class of a descriptor is the one that its type names, and the plain class without a
type.  Its defaults hold none of the reserved keys, and the id and the name that are given can
be written out. -/
structure Fits (classes : Table (ObjectClass V)) (plan : Blueprint V) : Prop where
  distinct : plan.given.Distinct
  kind_eq : match RuntimeObject.properValue? plan.given DescriptorKeys.standard.type with
    | none => plan.kind = .plain V
    | some value => ∃ name, value = .text name ∧ classes.get? name = some plan.kind
  unreserved : ∀ key ∈ reservedKeys, plan.kind.defaults.get? key = none
  id_writable : ∀ value,
    RuntimeObject.properValue? plan.given DescriptorKeys.standard.id = some value →
      value.IsWritable
  name_writable : ∀ value,
    RuntimeObject.properValue? plan.given DescriptorKeys.standard.name = some value →
      value.IsWritable

end Blueprint

/-- Descriptors describe a row of trees: each is a mapping whose type is known, and its
children are described by what it lists as such. -/
inductive IsPlan (classes : Table (ObjectClass V)) : List Value → Grove (Blueprint V) → Prop where
  | nil : IsPlan classes [] .nil
  | cons {kind : ObjectClass V} {given : Entries} {items others : List Value}
      {below rest : Grove (Blueprint V)} (fits : Blueprint.Fits classes ⟨kind, given⟩)
      (listed : World.childrenOf given = .ok items) (inside : IsPlan classes items below)
      (beside : IsPlan classes others rest) :
      IsPlan classes (.map given :: others) (.cons ⟨kind, given⟩ below rest)

/-- The ids that the descriptors give. -/
def Grove.givenIds (plan : Grove (Blueprint V)) : List String :=
  plan.preorder.filterMap Blueprint.id?

theorem Grove.givenIds_cons (plan : Blueprint V) (below rest : Grove (Blueprint V)) :
    (Grove.cons plan below rest).givenIds =
      (Grove.cons plan below .nil).givenIds ++ rest.givenIds := by
  rw [givenIds, preorder_cons, List.filterMap_append]
  rfl

theorem Grove.givenIds_top (plan : Blueprint V) (below : Grove (Blueprint V)) :
    (Grove.cons plan below .nil).givenIds =
      [plan].filterMap Blueprint.id? ++ below.givenIds := by
  rw [givenIds, preorder, preorder, List.append_nil, givenIds, ← List.filterMap_append,
    List.singleton_append]

namespace Blueprint.Fits

variable {classes : Table (ObjectClass V)} {plan : Blueprint V}

/-- The defaults show nowhere but in the data. -/
theorem properValue?_update (fits : plan.Fits classes) {key : String}
    (reserved : key ∈ reservedKeys) :
    RuntimeObject.properValue? (Entries.update plan.kind.defaults plan.given) key =
      RuntimeObject.properValue? plan.given key := by
  unfold RuntimeObject.properValue?
  rw [Entries.get?_update _ fits.distinct, fits.unreserved key reserved]
  cases plan.given.get? key <;> rfl

/-- What is written out is what the descriptor gives, or else the default. -/
theorem entryText_update (fits : plan.Fits classes) {key : String}
    (reserved : key ∈ reservedKeys)
    (writable : ∀ value, RuntimeObject.properValue? plan.given key = some value →
      value.IsWritable) (default : String) :
    RuntimeObject.entryText (Entries.update plan.kind.defaults plan.given) key default =
      .ok ((plan.text? key).getD default) := by
  rw [RuntimeObject.entryText, fits.properValue?_update reserved, text?]
  cases given : RuntimeObject.properValue? plan.given key with
  | none => rfl
  | some value => exact Value.toText_eq_ok_iff.mpr ⟨writable value given, rfl⟩

/-- A type that is known is a text. -/
theorem type_writable (fits : plan.Fits classes) (value : Value)
    (given : RuntimeObject.properValue? plan.given DescriptorKeys.standard.type = some value) :
    value.IsWritable := by
  have kind_eq := fits.kind_eq
  rw [given] at kind_eq
  obtain ⟨name, rfl, -⟩ := kind_eq
  exact Value.isWritable_text name

theorem dataOf_update (fits : plan.Fits classes) :
    RuntimeObject.dataOf (Entries.update plan.kind.defaults plan.given) = plan.data := by
  have kept : ∀ key ∈ reservedKeys, plan.kind.defaults.drop key = plan.kind.defaults :=
    fun key reserved => Entries.drop_eq_self (fits.unreserved key reserved)
  simp only [reservedKeys, List.forall_mem_cons] at kept
  simp only [RuntimeObject.dataOf, data, Entries.drop_update, kept]

/-- What the module finds for the descriptor. -/
theorem resolve_eq (fits : plan.Fits classes) {found : Module V}
    (classes_eq : found.classes = classes) :
    World.resolve found plan.given =
      .ok (plan.kind, Entries.update plan.kind.defaults plan.given) := by
  have kind_eq := fits.kind_eq
  unfold World.resolve
  cases asked : RuntimeObject.properValue? plan.given DescriptorKeys.standard.type with
  | none =>
      rw [asked] at kind_eq
      have noDefaults : plan.kind.defaults = [] := by rw [kind_eq]; rfl
      rw [noDefaults, Entries.update_empty fits.distinct, ← kind_eq]
  | some value =>
      rw [asked] at kind_eq
      obtain ⟨name, rfl, known⟩ := kind_eq
      simp only [classes_eq, known]

theorem childrenOf_update (fits : plan.Fits classes) :
    World.childrenOf (Entries.update plan.kind.defaults plan.given) =
      World.childrenOf plan.given := by
  unfold World.childrenOf
  rw [fits.properValue?_update (by decide)]

end Blueprint.Fits

/-! ## How deep a plan goes -/

namespace Value

theorem depth_le_itemsDepth {items : List Value} {item : Value} (member : item ∈ items) :
    item.depth ≤ itemsDepth items := by
  induction items with
  | nil => cases member
  | cons first rest inductionHypothesis =>
      rw [itemsDepth]
      rcases List.mem_cons.mp member with rfl | later
      · exact Nat.le_max_left _ _
      · exact Nat.le_trans (inductionHypothesis later) (Nat.le_max_right _ _)

theorem depth_le_entriesDepth {entries : Entries} {value : Value}
    (member : value ∈ entries.values) : value.depth ≤ entriesDepth entries := by
  induction entries with
  | nil => cases member
  | cons entry rest inductionHypothesis =>
      obtain ⟨key, first⟩ := entry
      rw [entriesDepth]
      rcases List.mem_cons.mp member with rfl | later
      · exact Nat.le_max_left _ _
      · exact Nat.le_trans (inductionHypothesis later) (Nat.le_max_right _ _)

theorem depth_pos (value : Value) : 0 < value.depth := by
  cases value <;> simp [depth]

/-- The items of a value are at most as deep as the value. -/
theorem depth_le_of_toItems {value item : Value} {items : List Value}
    (listed : value.toItems = .ok items) (member : item ∈ items) :
    item.depth ≤ value.depth := by
  unfold toItems at listed
  cases found : value.items? with
  | none =>
      rw [found] at listed
      cases listed
  | some all =>
      rw [found] at listed
      obtain rfl : all = items := by simpa using listed
      cases value with
      | list items =>
          obtain rfl : items = all := by simpa [items?] using found
          exact Nat.le_trans (depth_le_itemsDepth member) (Nat.le_succ _)
      | map entries =>
          obtain rfl : entries.map (fun entry => atom entry.1) = all := by
            simpa [items?] using found
          obtain ⟨entry, -, rfl⟩ := List.mem_map.mp member
          exact depth_pos _
      | atom content =>
          cases content with
          | text letters =>
              obtain rfl : letters.toList.map (fun c => text (String.singleton c)) = all := by
                simpa [items?] using found
              obtain ⟨letter, -, rfl⟩ := List.mem_map.mp member
              exact Nat.le_refl _
          | _ => simp [items?] at found

end Value

/-- The descriptors of the children are not as deep as the descriptor. -/
theorem World.depth_lt_of_childrenOf {given : Entries} {items : List Value} {child : Value}
    (listed : World.childrenOf given = .ok items) (member : child ∈ items) :
    child.depth < (Value.map given).depth := by
  unfold World.childrenOf RuntimeObject.properValue? at listed
  cases found : given.get? DescriptorKeys.standard.children with
  | none =>
      obtain rfl : items = [] := by simpa [found] using listed.symm
      cases member
  | some value =>
      by_cases proper : value.truthy = true
      · simp only [found, proper, if_true] at listed
        have isValue := Value.depth_le_entriesDepth (Entries.mem_values_of_get? found)
        exact Nat.lt_succ_of_le (Nat.le_trans (Value.depth_le_of_toItems listed member) isValue)
      · obtain rfl : items = [] := by simpa [found, proper] using listed.symm
        cases member

end CommandHost
