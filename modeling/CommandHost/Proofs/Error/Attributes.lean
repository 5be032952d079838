import CommandHost.Error.Build
import CommandHost.Proofs.Result
import CommandHost.Proofs.Value.Entries

/-!
# What an error reports

An error begins with the attributes that its class gives it, then its further arguments are
set as attributes one after another, and in the end it tells about itself by five base
entries overlaid by the attributes that it shows.

Four of the base entries are attributes themselves and are not shown a second time.  The
fifth one is the name of the class: nothing keeps an attribute `type` from hiding it.  So an
error reports what it should exactly if it has no such attribute, or one that says the same.
-/

namespace CommandHost

/-- The names of the arguments that a class has a use for. -/
def ErrorClass.ownNames (kind : ErrorClass) : List String :=
  kind.signature.parameters ++ ["code", "level"]

/-- The named arguments without those that only become attributes. -/
def ErrorClass.ownArguments (kind : ErrorClass) (named : Entries) : Entries :=
  named.filter fun entry => kind.ownNames.any fun name => (Atom.text name).same entry.1

namespace ErrorObject

variable {kind : ErrorClass} {error later : ErrorObject} {entries pairs named : Entries}
  {positional : List Value}

/-- A name whose attribute is to be reported: it does not begin with an underscore, and it
is not the name for what the error prints. -/
def IsPublic (name : String) : Prop := name.toList.head? ≠ some '_' ∧ name ≠ "args"

instance (name : String) : Decidable (IsPublic name) := inferInstanceAs (Decidable (_ ∧ _))

/-- Entries that report an error: the base entries are what the error has there, and every
other public attribute stands under its own name. -/
structure Reports (error : ErrorObject) (entries : Entries) : Prop where
  base : ∀ name ∈ baseNames, ∃ value,
    error.attributes.get? name = some value ∧ entries.get? name = some value
  className : entries.get? "type" = some (.text error.kind.name)
  others : ∀ name, IsPublic name → name ∉ baseNames → name ≠ "type" →
    entries.get? name = error.attributes.get? name

/-! ## Setting attributes -/

/-- Setting an attribute leaves the attributes as they are, and then its name is not public,
or it assigns one of them, or it replaces them all. -/
theorem set_cases {name : Atom} {value : Value} (done : error.set name value = .ok later) :
    later.kind = error.kind ∧
      ((∃ content, name = .text content ∧ ¬ IsPublic content ∧
          later.attributes = error.attributes) ∨
        later.attributes = error.attributes.assign name value ∨
        name = .text "__dict__" ∧ ∃ entries, later.attributes = .ofPairs entries) := by
  unfold set at done
  split at done
  · obtain ⟨arguments, -, rfl⟩ := map_eq_ok_iff.mp done
    exact ⟨rfl, .inl ⟨"args", rfl, by decide, rfl⟩⟩
  · split at done
    · cases done
      exact ⟨rfl, .inr (.inr ⟨rfl, _, rfl⟩)⟩
    · cases done
  · cases done
  · cases done
  · split at done
    · cases done
      exact ⟨rfl, .inl ⟨"__suppress_context__", rfl, by decide, rfl⟩⟩
    · cases done
  · split at done
    · next link found =>
      split at done
      · cases done
        have hidden : ∀ link ∈ linkNames, ¬ IsPublic link := by decide
        exact ⟨rfl, .inl ⟨link, Atom.text_same_iff.mp (List.find?_some found :),
          hidden link (List.mem_of_find?_eq_some found), rfl⟩⟩
      · cases done
    · cases done
      exact ⟨rfl, .inr (.inl rfl)⟩

theorem distinct_of_set {name : Atom} {value : Value} (distinct : error.attributes.Distinct)
    (done : error.set name value = .ok later) : later.attributes.Distinct := by
  obtain ⟨-, ⟨_, -, -, same⟩ | assigned | ⟨-, _, replaced⟩⟩ := set_cases done
  · rwa [same]
  · rw [assigned]
    exact distinct.assign name value
  · rw [replaced]
    exact Entries.distinct_ofPairs _

/-- What setting an attribute does to a public one. -/
theorem get?_of_set {name : Atom} {value : Value} (done : error.set name value = .ok later)
    (single : name ≠ .text "__dict__") {other : String} (isPublic : IsPublic other) :
    later.attributes.get? other =
      if (Atom.text other).same name then some value else error.attributes.get? other := by
  obtain ⟨-, ⟨content, rfl, hidden, same⟩ | assigned | ⟨isDict, -⟩⟩ := set_cases done
  · have apart : ¬ (Atom.text other).same (.text content) = true := by
      rw [Atom.text_same_iff]
      rintro ⟨rfl⟩
      exact hidden isPublic
    rw [same, if_neg apart]
  · rw [assigned, Entries.get?_assign]
  · exact absurd isDict single

theorem setAll_cons {name : Atom} {value : Value} :
    error.setAll ((name, value) :: pairs) = .ok later ↔
      ∃ next, error.set name value = .ok next ∧ next.setAll pairs = .ok later :=
  bind_eq_ok_iff

theorem kind_of_setAll (done : error.setAll pairs = .ok later) : later.kind = error.kind := by
  induction pairs generalizing error with
  | nil =>
      cases done
      rfl
  | cons entry rest inductionHypothesis =>
      obtain ⟨next, isSet, rest⟩ := setAll_cons.mp done
      rw [inductionHypothesis rest, (set_cases isSet).1]

theorem distinct_of_setAll (distinct : error.attributes.Distinct)
    (done : error.setAll pairs = .ok later) : later.attributes.Distinct := by
  induction pairs generalizing error with
  | nil =>
      cases done
      exact distinct
  | cons entry rest inductionHypothesis =>
      obtain ⟨next, isSet, rest⟩ := setAll_cons.mp done
      exact inductionHypothesis (distinct_of_set distinct isSet) rest

/-- What a public attribute holds after attributes were set one after another. -/
theorem get?_of_setAll (distinct : pairs.Distinct) (single : pairs.get? "__dict__" = none)
    (done : error.setAll pairs = .ok later) {name : String} (isPublic : IsPublic name) :
    later.attributes.get? name = (pairs.get? name).or (error.attributes.get? name) := by
  induction pairs generalizing error with
  | nil =>
      cases done
      rfl
  | cons entry rest inductionHypothesis =>
      obtain ⟨key, value⟩ := entry
      obtain ⟨absent, restDistinct⟩ := List.pairwise_cons.mp distinct
      obtain ⟨next, isSet, rest⟩ := setAll_cons.mp done
      rw [Entries.get?_cons] at single
      split at single
      · cases single
      · next notDict =>
          rw [inductionHypothesis restDistinct single rest,
            get?_of_set isSet (mt Atom.text_same_iff.mpr notDict) isPublic, Entries.get?_cons]
          by_cases here : (Atom.text name).same key = true
          · obtain rfl := Atom.text_same_iff.mp here
            rw [if_pos here, if_pos here, Entries.get?_eq_none absent]
            rfl
          · rw [if_neg here, if_neg here]

/-! ## What an error tells -/

theorem valueOf_eq_ok_iff {name : String} {value : Value} :
    error.valueOf name = .ok value ↔ error.attributes.get? name = some value := by
  unfold valueOf
  cases error.attributes.get? name <;> simp

theorem shows_text_iff {name : String} :
    shows (.text name) = true ↔ IsPublic name ∧ name ∉ baseNames := by
  cases first : name.toList.head? <;>
    simp [shows, IsPublic, baseNames, first] <;> grind

theorem describe_eq_ok (described : error.describe = .ok entries) :
    ∃ message code level details,
      error.attributes.get? "message" = some message ∧
        error.attributes.get? "code" = some code ∧
        error.attributes.get? "level" = some level ∧
        error.attributes.get? "details" = some details ∧
        entries = (baseEntries error.kind message code level details).update
          (error.attributes.filter fun entry => shows entry.1) := by
  unfold describe at described
  cases hidden : error.attributes.get? "to_dict" with
  | some value => simp [hidden] at described
  | none =>
      simp only [hidden, bind_eq_ok_iff, valueOf_eq_ok_iff, pure_eq_ok] at described
      obtain ⟨message, hasMessage, code, hasCode, level, hasLevel, details, hasDetails,
        told⟩ := described
      split at told
      · cases told
      · cases told
        exact ⟨message, code, level, details, hasMessage, hasCode, hasLevel, hasDetails, rfl⟩

/-- What a text key holds where the attributes that are shown lie over other entries. -/
theorem get?_update_shown (distinct : error.attributes.Distinct) (base : Entries)
    (name : String) :
    (base.update (error.attributes.filter fun entry => shows entry.1)).get? name =
      ((error.attributes.get? name).filter fun _ => shows (.text name)).or (base.get? name) := by
  rw [Entries.get?_update _ (distinct.filter _), Entries.get?_filter distinct]

section Described

variable (distinct : error.attributes.Distinct) (described : error.describe = .ok entries)

include distinct described

theorem get?_of_describe_base {name : String} (isBase : name ∈ baseNames) :
    ∃ value, error.attributes.get? name = some value ∧ entries.get? name = some value := by
  obtain ⟨message, code, level, details, hasMessage, hasCode, hasLevel, hasDetails, rfl⟩ :=
    describe_eq_ok described
  have notShown : shows (.text name) = false := by
    rw [Bool.eq_false_iff, ne_eq, shows_text_iff]
    exact fun ⟨_, notBase⟩ => notBase isBase
  simp only [get?_update_shown distinct, notShown]
  simp only [baseNames, List.mem_cons, List.not_mem_nil, or_false] at isBase
  rcases isBase with rfl | rfl | rfl | rfl
  · exact ⟨message, hasMessage, by rw [hasMessage]; rfl⟩
  · exact ⟨details, hasDetails, by rw [hasDetails]; rfl⟩
  · exact ⟨code, hasCode, by rw [hasCode]; rfl⟩
  · exact ⟨level, hasLevel, by rw [hasLevel]; rfl⟩

/-- An attribute `type` hides the name of the class. -/
theorem get?_of_describe_type :
    entries.get? "type" =
      some ((error.attributes.get? "type").getD (.text error.kind.name)) := by
  obtain ⟨message, code, level, details, -, -, -, -, rfl⟩ := describe_eq_ok described
  rw [get?_update_shown distinct]
  cases error.attributes.get? "type" <;> rfl

theorem get?_of_describe_public {name : String} (isPublic : IsPublic name)
    (notBase : name ∉ baseNames) (notType : name ≠ "type") :
    entries.get? name = error.attributes.get? name := by
  obtain ⟨message, code, level, details, -, -, -, -, rfl⟩ := describe_eq_ok described
  have isShown : shows (.text name) = true := shows_text_iff.mpr ⟨isPublic, notBase⟩
  have notThere : (baseEntries error.kind message code level details).get? name = none := by
    apply Entries.get?_eq_none_of_keys (Entries.keys_ofTexts _)
    simp only [baseNames, List.mem_cons, List.not_mem_nil, or_false, not_or] at notBase
    simp [notBase, notType]
  rw [get?_update_shown distinct, notThere, isShown]
  cases error.attributes.get? name <;> rfl

/-- An error that tells about itself reports what it should unless an attribute `type` says
something else than the name of its class. -/
theorem reports_iff :
    Reports error entries ↔
      ∀ value, error.attributes.get? "type" = some value → value = .text error.kind.name := by
  have typed := get?_of_describe_type distinct described
  constructor
  · intro reports value hasType
    rw [reports.className, hasType] at typed
    exact (Option.some.inj typed).symm
  · intro sameType
    refine ⟨fun _ => get?_of_describe_base distinct described, ?_,
      fun _ => get?_of_describe_public distinct described⟩
    rw [typed]
    cases hasType : error.attributes.get? "type" with
    | none => rfl
    | some value =>
        rw [sameType value hasType]
        rfl

end Described

/-! ## Beginning an error -/

/-- An error of a class that has no attributes but the base ones and those of parameters. -/
structure Begins (kind : ErrorClass) (error : ErrorObject) : Prop where
  ofKind : error.kind = kind
  distinct : error.attributes.Distinct
  unnamed : ∀ name, name ∉ baseNames → name ∉ kind.signature.parameters →
    error.attributes.get? name = none

theorem opened_begins (kind : ErrorClass) (message details code level : Value) :
    Begins kind (opened kind message details code level) :=
  have keys : (opened kind message details code level).attributes.keys =
      baseNames.map Atom.text := rfl
  { ofKind := rfl
    distinct := Entries.distinct_of_keys keys (by decide)
    unnamed := fun _ notBase _ => Entries.get?_eq_none_of_keys keys notBase }

/-- An error that the program raises begins with the attributes of its report. -/
theorem ofReport_begins {report : Report} (ofKind : report.kind = kind) (names : List String)
    (keys : report.attributes.keys = names.map Atom.text) (nodup : names.Nodup)
    (parameters : names ⊆ kind.signature.parameters) : Begins kind (ofReport report) := by
  subst ofKind
  have first :=
    opened_begins report.kind report.message report.details report.code report.level
  refine ⟨rfl, first.distinct.update _, fun name notBase notParameter => ?_⟩
  have absent : report.attributes.get? name = none :=
    Entries.get?_eq_none_of_keys keys fun member => notParameter (parameters member)
  rw [ofReport, Entries.get?_update _ (Entries.distinct_of_keys keys nodup), absent]
  exact first.unnamed name notBase notParameter

theorem begins_of_begun {filled : Entries} {code level : Option Value}
    (done : begun kind filled code level = .ok error) : Begins kind error := by
  cases kind <;> simp only [begun] at done
  case general | resolution =>
    cases done
    exact opened_begins ..
  case parsing | configuration =>
    split at done
    · cases done
    · cases done
      exact opened_begins ..
  case invalidCommand =>
    obtain ⟨details, -, done⟩ := bind_eq_ok_iff.mp done
    split at done
    · cases done
    · cases done
      exact opened_begins ..
  case objectCreation =>
    obtain ⟨details, -, done⟩ := bind_eq_ok_iff.mp done
    cases done
    exact opened_begins ..
  case objectNotFound =>
    cases done
    exact ofReport_begins rfl ["module_name", "object_id"] rfl (by decide) (by decide)
  case operationNotFound =>
    cases done
    exact ofReport_begins rfl ["module_name", "op"] rfl (by decide) (by decide)
  case unknownModule =>
    cases done
    exact ofReport_begins rfl ["module_name"] rfl (by decide) (by decide)
  case unknownNanoCommand =>
    cases done
    exact ofReport_begins rfl ["object_id", "verb"] rfl (by decide) (by decide)

/-! ## Binding arguments -/

variable {signature : Signature} {bound : Bound}

theorem takes_text_iff {name : String} {value : Value} :
    signature.takes (.text name, value) = true ↔ name ∈ signature.parameters := by
  simp [Signature.takes]

theorem bind_eq_ok (done : signature.bind positional named = .ok bound) :
    signature.accepts positional named = true ∧
      bound.filled =
        .ofTexts (signature.parameters.zip positional) ++ named.filter signature.takes ∧
      bound.others = named.filter fun entry => !signature.takes entry := by
  unfold Signature.bind at done
  split at done
  · next accepted =>
      cases done
      exact ⟨accepted, rfl, rfl⟩
  · cases done

theorem filter_takes_ownArguments (kind : ErrorClass) (named : Entries) :
    (kind.ownArguments named).filter kind.signature.takes =
      named.filter kind.signature.takes := by
  rw [ErrorClass.ownArguments, List.filter_filter]
  refine List.filter_congr fun entry _ => ?_
  cases takes : kind.signature.takes entry with
  | false => rfl
  | true =>
      obtain ⟨name, isParameter, same⟩ := List.any_eq_true.mp takes
      rw [Bool.true_and, List.any_eq_true]
      exact ⟨name, List.mem_append_left _ isParameter, same⟩

/-- A call that is accepted is accepted without the arguments that the class has no use
for. -/
theorem accepts_ownArguments (distinct : named.Distinct)
    (accepted : kind.signature.accepts positional named = true) :
    kind.signature.accepts positional (kind.ownArguments named) = true := by
  simp only [Signature.accepts, filter_takes_ownArguments, Bool.and_eq_true, Bool.or_eq_true,
    List.all_eq_true] at accepted ⊢
  obtain ⟨⟨⟨⟨⟨fits, complete⟩, once⟩, admitted⟩, notSelf⟩, texts⟩ := accepted
  have subset : kind.ownArguments named ⊆ named := List.filter_sublist.subset
  refine ⟨⟨⟨⟨⟨fits, complete⟩, once⟩, ?_⟩, ?_⟩, fun entry member => texts entry (subset member)⟩
  · exact admitted.imp_right fun all entry member => all entry (subset member)
  · have absent : named.get? "self" = none := by
      simpa [Entries.has, Entries.get?] using notSelf
    have stillAbsent : (kind.ownArguments named).get? "self" = none := by
      rw [ErrorClass.ownArguments, Entries.get?_filter distinct, absent]
      rfl
    simpa [Entries.has, Entries.get?] using stillAbsent

theorem bind_ownArguments (distinct : named.Distinct)
    (done : kind.signature.bind positional named = .ok bound) :
    kind.signature.bind positional (kind.ownArguments named) =
      .ok ⟨bound.filled, kind.ownArguments bound.others⟩ := by
  obtain ⟨accepted, filled, others⟩ := bind_eq_ok done
  have sameOthers : ((kind.ownArguments named).filter fun entry =>
      !kind.signature.takes entry) = kind.ownArguments bound.others := by
    simp only [others, ErrorClass.ownArguments, List.filter_filter, Bool.and_comm]
  rw [Signature.bind, if_pos (accepts_ownArguments distinct accepted),
    filter_takes_ownArguments, ← filled, sameOthers]

/-! ## Building an error -/

theorem distinct_of_bind (distinct : named.Distinct)
    (done : signature.bind positional named = .ok bound) : bound.others.Distinct := by
  rw [(bind_eq_ok done).2.2]
  exact distinct.filter _

theorem get?_others (distinct : named.Distinct)
    (done : signature.bind positional named = .ok bound) (name : String) :
    bound.others.get? name =
      if name ∈ signature.parameters then none else named.get? name := by
  rw [(bind_eq_ok done).2.2, Entries.get?_filter distinct]
  by_cases isParameter : name ∈ signature.parameters
  · have takes (value : Value) : signature.takes (.text name, value) = true :=
      takes_text_iff.mpr isParameter
    rw [if_pos isParameter]
    cases named.get? name <;> simp [Option.filter, takes]
  · have notTakes (value : Value) : signature.takes (.text name, value) = false :=
      Bool.eq_false_iff.mpr (mt takes_text_iff.mp isParameter)
    rw [if_neg isParameter]
    cases named.get? name <;> simp [Option.filter, notTakes]

theorem others_eq_nil (done : signature.bind positional named = .ok bound)
    (closed : signature.extensible = false) : bound.others = [] := by
  obtain ⟨accepted, -, others⟩ := bind_eq_ok done
  simp only [Signature.accepts, closed, Bool.and_eq_true, Bool.false_or,
    List.all_eq_true] at accepted
  obtain ⟨⟨⟨-, all⟩, -⟩, -⟩ := accepted
  rw [others, List.filter_eq_nil_iff]
  intro entry member
  simp [all entry member]

theorem get?_extras (distinct : named.Distinct)
    (done : kind.signature.bind positional named = .ok bound) (name : String) :
    bound.extras.get? name = if name ∈ kind.ownNames then none else named.get? name := by
  have othersDistinct := distinct_of_bind distinct done
  have dropped : (bound.others.drop "code").Distinct := othersDistinct.filter _
  rw [Bound.extras, Entries.get?_drop dropped, Entries.get?_drop othersDistinct,
    get?_others distinct done]
  simp only [ErrorClass.ownNames, List.mem_append, List.mem_cons, List.not_mem_nil, or_false]
  by_cases isLevel : name = "level" <;> by_cases isCode : name = "code" <;>
    simp [isLevel, isCode]

/-- A class that has a base entry for no parameter admits no further arguments. -/
theorem not_extensible_of_base (kind : ErrorClass) :
    ∀ name ∈ baseNames, name ∉ kind.ownNames → kind.signature.extensible = false := by
  cases kind <;> decide

/-- No attribute is set that has the name of a base entry. -/
theorem get?_extras_base (distinct : named.Distinct)
    (done : kind.signature.bind positional named = .ok bound) :
    ∀ name ∈ baseNames, bound.extras.get? name = none := by
  intro name isBase
  by_cases own : name ∈ kind.ownNames
  · rw [get?_extras distinct done, if_pos own]
  · have noneLeft : bound.others = [] :=
      others_eq_nil done (not_extensible_of_base kind name isBase own)
    rw [Bound.extras, noneLeft]
    rfl

/-- The arguments that the class has a use for are not set as attributes. -/
theorem extras_ownArguments (done : kind.signature.bind positional named = .ok bound) :
    Bound.extras ⟨bound.filled, kind.ownArguments bound.others⟩ = [] := by
  rw [List.eq_nil_iff_forall_not_mem]
  intro entry member
  simp only [Bound.extras, Entries.drop, Entries.erase, ErrorClass.ownArguments,
    (bind_eq_ok done).2.2, List.mem_filter, Bool.not_eq_true', List.any_eq_true] at member
  obtain ⟨⟨⟨⟨-, notTaken⟩, name, isOwn, same⟩, notCode⟩, notLevel⟩ := member
  rcases List.mem_append.mp isOwn with isParameter | isOther
  · have takes : kind.signature.takes entry = true :=
      List.any_eq_true.mpr ⟨name, isParameter, same⟩
    rw [takes] at notTaken
    cases notTaken
  · simp only [List.mem_cons, List.not_mem_nil, or_false] at isOther
    rcases isOther with rfl | rfl
    · rw [same] at notCode
      cases notCode
    · rw [same] at notLevel
      cases notLevel

theorem get?_ownArguments (distinct : named.Distinct) {name : String}
    (own : name ∈ kind.ownNames) :
    (kind.ownArguments named).get? name = named.get? name := by
  rw [ErrorClass.ownArguments, Entries.get?_filter distinct]
  cases named.get? name <;> simp [Option.filter, own]

@[simp] theorem finish_kind (filled : Entries) : (error.finish filled).kind = error.kind := by
  unfold finish
  split <;> rfl

theorem get?_finish (filled : Entries) {name : String}
    (apart : error.kind = .invalidCommand → name ≠ "module_name") :
    (error.finish filled).attributes.get? name = error.attributes.get? name := by
  unfold finish
  split
  · next isInvalid => rw [Entries.get?_set, if_neg (apart isInvalid)]
  · rfl

theorem build_eq_ok_iff :
    build kind positional named = .ok error ↔
      ∃ bound, kind.signature.bind positional named = .ok bound ∧
        ∃ base, begun kind bound.filled (bound.others.get? "code") (bound.others.get? "level") =
            .ok base ∧
          ∃ next, base.setAll bound.extras = .ok next ∧ next.finish bound.filled = error := by
  simp only [build, bind_eq_ok_iff, pure_eq_ok, Except.ok.injEq]

theorem distinct_finish (distinct : error.attributes.Distinct) (filled : Entries) :
    (error.finish filled).attributes.Distinct := by
  unfold ErrorObject.finish
  split
  · exact distinct.assign _ _
  · exact distinct

theorem isPublic_of_base : ∀ name ∈ baseNames, IsPublic name := by decide

/-- What a public attribute holds in the end. -/
theorem get?_of_built {base next : ErrorObject} {code level : Option Value}
    (distinct : named.Distinct) (single : named.get? "__dict__" = none)
    (isBound : kind.signature.bind positional named = .ok bound)
    (isBegun : begun kind bound.filled code level = .ok base)
    (isSet : base.setAll bound.extras = .ok next) {name : String} (isPublic : IsPublic name)
    (apart : kind = .invalidCommand → name ≠ "module_name") :
    (next.finish bound.filled).attributes.get? name =
      (bound.extras.get? name).or (base.attributes.get? name) := by
  have sameKind : next.kind = kind := by
    rw [kind_of_setAll isSet, (begins_of_begun isBegun).ofKind]
  have extrasSingle : bound.extras.get? "__dict__" = none := by
    rw [get?_extras distinct isBound]
    split
    · rfl
    · exact single
  have extrasDistinct : bound.extras.Distinct :=
    ((distinct_of_bind distinct isBound).filter _).filter _
  rw [get?_finish _ (by rwa [sameKind]),
    get?_of_setAll extrasDistinct extrasSingle isSet isPublic]

/-- A further argument that has a public name becomes the attribute of that name. -/
theorem attributes_of_build (distinct : named.Distinct) (single : named.get? "__dict__" = none)
    (built : build kind positional named = .ok error) {name : String} (isPublic : IsPublic name)
    (notBase : name ∉ baseNames) (notOwn : name ∉ kind.ownNames) :
    error.attributes.get? name = named.get? name := by
  obtain ⟨bound, isBound, base, isBegun, next, isSet, rfl⟩ := build_eq_ok_iff.mp built
  have notParameter : name ∉ kind.signature.parameters :=
    fun isParameter => notOwn (List.mem_append_left _ isParameter)
  have apart : kind = .invalidCommand → name ≠ "module_name" := by
    rintro rfl rfl
    exact notParameter (by decide)
  rw [get?_of_built distinct single isBound isBegun isSet isPublic apart,
    get?_extras distinct isBound, if_neg notOwn,
    (begins_of_begun isBegun).unnamed name notBase notParameter, Option.or_none]

/-- The further arguments have no influence on the base attributes. -/
theorem base_of_build (distinct : named.Distinct) (single : named.get? "__dict__" = none)
    (built : build kind positional named = .ok error) :
    ∃ bare, build kind positional (kind.ownArguments named) = .ok bare ∧
      ∀ name ∈ baseNames, error.attributes.get? name = bare.attributes.get? name := by
  obtain ⟨bound, isBound, base, isBegun, next, isSet, rfl⟩ := build_eq_ok_iff.mp built
  have othersDistinct := distinct_of_bind distinct isBound
  have sameBase : begun kind bound.filled
      ((kind.ownArguments bound.others).get? "code")
      ((kind.ownArguments bound.others).get? "level") = .ok base := by
    rw [get?_ownArguments othersDistinct (by simp [ErrorClass.ownNames]),
      get?_ownArguments othersDistinct (by simp [ErrorClass.ownNames]), isBegun]
  refine ⟨base.finish bound.filled, build_eq_ok_iff.mpr ⟨_, bind_ownArguments distinct isBound,
    base, sameBase, base, ?_, rfl⟩, fun name isBase => ?_⟩
  · rw [extras_ownArguments isBound]
    rfl
  · have apart : name ≠ "module_name" := by
      rintro rfl
      exact absurd isBase (by decide)
    rw [get?_of_built distinct single isBound isBegun isSet (isPublic_of_base name isBase)
        fun _ => apart,
      get?_extras_base distinct isBound name isBase, get?_finish _ fun _ => apart]
    rfl

theorem distinct_of_build (built : build kind positional named = .ok error) :
    error.attributes.Distinct := by
  obtain ⟨bound, -, base, isBegun, next, isSet, rfl⟩ := build_eq_ok_iff.mp built
  exact distinct_finish (distinct_of_setAll (begins_of_begun isBegun).distinct isSet) _

theorem kind_of_build (built : build kind positional named = .ok error) :
    error.kind = kind := by
  obtain ⟨bound, -, base, isBegun, next, isSet, rfl⟩ := build_eq_ok_iff.mp built
  rw [finish_kind, kind_of_setAll isSet, (begins_of_begun isBegun).ofKind]

/-- **What an error reports.**  An error that is built and tells about itself reports what it
should exactly if it has no attribute `type` that says something else than the name of its
class.  Unless the arguments replace the attributes as a whole, the base attributes are those
of the error built without further arguments, and every further argument of a public name is
an attribute. -/
theorem build_reports_iff (distinct : named.Distinct)
    (built : build kind positional named = .ok error)
    (described : error.describe = .ok entries) :
    error.kind = kind ∧
      (Reports error entries ↔
        ∀ value, error.attributes.get? "type" = some value → value = .text kind.name) ∧
      (named.get? "__dict__" = none →
        (∃ bare, build kind positional (kind.ownArguments named) = .ok bare ∧
          ∀ name ∈ baseNames, error.attributes.get? name = bare.attributes.get? name) ∧
        ∀ name, IsPublic name → name ∉ baseNames → name ∉ kind.ownNames →
          error.attributes.get? name = named.get? name) := by
  have ofKind := kind_of_build built
  refine ⟨ofKind, ?_, fun single => ⟨base_of_build distinct single built, ?_⟩⟩
  · rw [← ofKind]
    exact reports_iff (distinct_of_build built) described
  · exact fun name isPublic notBase notOwn =>
      attributes_of_build distinct single built isPublic notBase notOwn

/-- A parameter, a level, and further arguments: one that is shown, one that is private, and
one for what the error prints. -/
def hintedArguments : Entries :=
  .ofTexts
    [("module_name", .text "xui"), ("level", .text "warn"), ("hint", .text "retry"),
      ("_note", .text "seen"), ("args", .list [.text "other"])]

theorem build_reports_iff_hinted :
    ∃ error entries,
      build .invalidCommand [.text "no such verb"] hintedArguments = .ok error ∧
        error.describe = .ok entries ∧ Reports error entries ∧
        entries.get? "code" = some (.text "invalid_command") ∧
        entries.get? "hint" = some (.text "retry") := by
  obtain ⟨error, entries, built, described⟩ : ∃ error entries,
      build .invalidCommand [.text "no such verb"] hintedArguments = .ok error ∧
        error.describe = .ok entries :=
    ⟨_, _, rfl, rfl⟩
  have distinct : hintedArguments.Distinct := Entries.distinct_ofTexts (by decide)
  obtain ⟨-, reports_iff, plain⟩ := build_reports_iff distinct built described
  obtain ⟨⟨bare, bareBuilt, sameBase⟩, attributes⟩ := plain (by decide)
  have reports : Reports error entries := by
    refine reports_iff.mpr fun value hasType => ?_
    rw [attributes "type" (by decide) (by decide) (by decide)] at hasType
    cases hasType
  refine ⟨error, entries, built, described, reports, ?_, ?_⟩
  · obtain ⟨value, hasCode, reported⟩ := reports.base "code" (by decide)
    rw [sameBase "code" (by decide)] at hasCode
    cases bareBuilt
    rw [reported, ← hasCode]
    rfl
  · rw [reports.others "hint" (by decide) (by decide) (by decide),
      attributes "hint" (by decide) (by decide) (by decide)]
    rfl

/-- An error that is given an attribute `type` tells this instead of the name of its class. -/
theorem type_hides_className :
    ∃ error entries,
      build .general [.text "boom"] (.ofTexts [("type", .text "fatal")]) = .ok error ∧
        error.describe = .ok entries ∧ error.kind.name = "XpellError" ∧
        entries.get? "type" = some (.text "fatal") ∧ ¬ Reports error entries := by
  refine ⟨_, _, rfl, rfl, rfl, rfl, fun reports => ?_⟩
  have className : some (Value.text "fatal") = some (.text "XpellError") := reports.className
  simp at className

end ErrorObject

end CommandHost
