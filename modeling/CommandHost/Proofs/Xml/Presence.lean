import CommandHost.Proofs.Xml.Extension
import CommandHost.Xml.Node

/-!
# Who complains about a missing root element

Neither the expansion of an attribute value, nor the namespaces of a tag, nor the elements
that it opens or closes lead to the complaint that the root element is missing.  It is left to
the reader of content that runs out of text.
-/

namespace CommandHost.Xml

variable {declared : Declared} {active : List String}

theorem present_characterOf (number : Nat) : Present (characterOf number) := by
  unfold characterOf
  split <;> simp

/-! ## Values of attributes -/

theorem present_spend (expansion : Expansion) (amount : Nat) :
    Present (expansion.spend amount) := by
  unfold Expansion.spend
  dsimp only
  split <;> simp

theorem present_entityInValue (name : String) :
    Present (declared.entityInValue active name) := by
  unfold Declared.entityInValue
  repeat' split
  all_goals simp

theorem present_expandValue {verbatim : Bool} {fuel : Nat} {expansion : Expansion}
    {text : List Char} : Present (expandValue declared verbatim fuel active expansion text) := by
  induction fuel generalizing active expansion text with
  | zero => simp [expandValue]
  | succ fuel inductionHypothesis =>
      cases text with
      | nil => simp [expandValue]
      | cons c rest =>
          rw [expandValue]
          split
          · split
            · simp
            · next number after _ =>
                have present := present_characterOf number
                split
                · next fault refused => simpa [refused] using present
                · exact inductionHypothesis
            · next name after _ =>
                split
                · exact inductionHypothesis
                · have present : Present (declared.entityInValue active name) :=
                    present_entityInValue name
                  split
                  · next fault refused => simpa [refused] using present
                  · exact inductionHypothesis
                  · next text _ =>
                      have present := present_spend expansion text.length
                      split
                      · next fault refused => simpa [refused] using present
                      · next expansion _ =>
                          split
                          · next fault refused =>
                              have present : Present
                                  (expandValue declared verbatim fuel (name :: active)
                                    expansion text) :=
                                inductionHypothesis
                              simpa [refused] using present
                          · exact inductionHypothesis
          · split
            · simp
            · exact inductionHypothesis

theorem present_value {verbatim : Bool} {spent : Nat} {written : List Char} :
    Present (declared.value active verbatim spent written) :=
  present_expandValue.bind fun _ => present_ok _

/-! ## Namespaces -/

theorem present_bind (scope : Scope) (start space : String) :
    Present (scope.bind start space) := by
  unfold Scope.bind
  repeat' split
  all_goals simp

theorem present_elementName (scope : Scope) (written : String) :
    Present (scope.elementName written) := by
  unfold Scope.elementName
  repeat' split
  all_goals simp

theorem present_attributeName (scope : Scope) (written : String) :
    Present (scope.attributeName written) := by
  unfold Scope.attributeName
  repeat' split
  all_goals simp

namespace Gathering

theorem present_add (gathering : Gathering) (written : String) (value : List Char) :
    Present (gathering.add written value) := by
  unfold add
  split
  · exact (present_bind _ _ _).map _
  · simp

theorem present_addWritten {rules : List AttributeRule} {gathering : Gathering}
    {attributes : List (String × List Char)} :
    Present (addWritten declared active rules gathering attributes) := by
  induction attributes generalizing gathering with
  | nil => simp [addWritten]
  | cons attribute_ rest inductionHypothesis =>
      rw [addWritten]
      split
      · simp
      · exact present_value.bind fun _ => (present_add _ _ _).bind fun _ => inductionHypothesis

theorem present_addDefaults {gathering : Gathering} {rules : List AttributeRule} :
    Present (gathering.addDefaults rules) := by
  induction rules generalizing gathering with
  | nil => simp [addDefaults]
  | cons rule rest inductionHypothesis =>
      rw [addDefaults]
      split
      · next value _ =>
          split
          · exact inductionHypothesis
          · have present := present_add gathering rule.name value
            split
            · next fault refused => simpa [refused] using present
            · exact inductionHypothesis
      · exact inductionHypothesis

theorem present_resolve {scope : Scope} {found : List (Name × String)}
    {values : List (String × List Char)} : Present (resolve scope found values) := by
  induction values generalizing found with
  | nil => simp [resolve]
  | cons value rest inductionHypothesis =>
      rw [resolve]
      refine (present_attributeName _ _).bind fun name => ?_
      split
      · simp
      · exact inductionHypothesis

end Gathering

theorem present_ofTag {scope : Scope} {spent : Nat} {tag : Tag} :
    Present (Opened.ofTag declared active scope spent tag) :=
  Gathering.present_addWritten.bind fun _ => Gathering.present_addDefaults.bind fun _ =>
    Gathering.present_resolve.bind fun _ => (present_elementName _ _).bind fun _ => present_ok _

/-! ## Tags and entities in content -/

theorem present_openTag {progress : Progress} {tag : Tag} :
    Present (progress.openTag declared active tag) := by
  refine present_ofTag.bind fun opened => ?_
  dsimp only
  split <;> simp

theorem present_closeTag (progress : Progress) (written : String) :
    Present (progress.closeTag written) := by
  unfold Progress.closeTag
  split
  · simp
  · split <;> simp

theorem present_entityInContent (name : String) :
    Present (declared.entityInContent active name) := by
  unfold Declared.entityInContent
  dsimp only
  repeat' split
  all_goals simp

end CommandHost.Xml
