import CommandHost.Proofs.Xml.Lockstep

/-!
# Comments between the characters of content

Comments are written into a document at a place that lies in the content of an element, and
the document is read again.  The two trees are the same but for one spot (`Spot`): there the
one has a run of data, and the other the two parts of the run with the comments in between.
-/

namespace CommandHost.Xml

variable {declared : Declared} {fuel more : Nat} {active : List String}

/-! ## Spots in a tree -/

/-- A spot in the content of an element: the content of the element around the spot, and the
elements around that. -/
inductive Spot where
  | here (name : Name) (attributes : List (Name × String)) (before after : List Node)
  | inside (name : Name) (attributes : List (Name × String)) (before : List Node) (inner : Spot)
      (after : List Node)

namespace Spot

/-- The tree with the given nodes at a spot. -/
def fill (nodes : List Node) : Spot → Node
  | here name attributes before after => .element name attributes (before ++ nodes ++ after)
  | inside name attributes before inner after =>
    .element name attributes (before ++ inner.fill nodes :: after)

/-- None of the elements around a spot is a pseudo node. -/
def IsProper : Spot → Prop
  | here name _ _ _ => MarkupNode.isPseudoName name.localName = false
  | inside name _ _ inner _ => MarkupNode.isPseudoName name.localName = false ∧ inner.IsProper

end Spot

/-! ## Trees that differ at a spot -/

variable {first second : List Node}

/-- Contents that are the same but for one spot, where the one has the first nodes and the
other the second ones. -/
inductive ContentTwins (first second : List Node) : List Node → List Node → Prop where
  | here (before after : List Node) :
      ContentTwins first second (before ++ first ++ after) (before ++ second ++ after)
  | inside (before : List Node) {spot : Spot} (proper : spot.IsProper) (after : List Node) :
      ContentTwins first second (before ++ spot.fill first :: after)
        (before ++ spot.fill second :: after)

theorem ContentTwins.append_singleton {one other : List Node}
    (twins : ContentTwins first second one other) (node : Node) :
    ContentTwins first second (one ++ [node]) (other ++ [node]) := by
  cases twins with
  | here before after => simpa using ContentTwins.here before (after ++ [node])
  | inside before proper after => simpa using ContentTwins.inside before proper (after ++ [node])

/-- Elements with such contents are filled spots. -/
theorem ContentTwins.exists_spot {one other : List Node}
    (twins : ContentTwins first second one other) {name : Name}
    (proper : MarkupNode.isPseudoName name.localName = false)
    (attributes : List (Name × String)) :
    ∃ spot : Spot, spot.IsProper ∧ .element name attributes one = spot.fill first ∧
      .element name attributes other = spot.fill second := by
  cases twins with
  | here before after => exact ⟨.here name attributes before after, proper, rfl, rfl⟩
  | @inside before spot properInside after =>
      exact ⟨.inside name attributes before spot after, ⟨proper, properInside⟩, rfl, rfl⟩

/-- States that are the same but for one spot in an open element or in the root element. -/
inductive ProgressTwins (first second : List Node) : Progress → Progress → Prop where
  | pending (above : List Pending) {written : String} {opened : Opened}
      {one other : List Node} (twins : ContentTwins first second one.reverse other.reverse)
      (below : List Pending) (spent : Nat) :
      ProgressTwins first second ⟨above ++ ⟨written, opened, one⟩ :: below, none, spent⟩
        ⟨above ++ ⟨written, opened, other⟩ :: below, none, spent⟩
  | root {spot : Spot} (proper : spot.IsProper) (spent : Nat) :
      ProgressTwins first second ⟨[], some (spot.fill first), spent⟩
        ⟨[], some (spot.fill second), spent⟩

namespace ProgressTwins

theorem add {one other : Progress} (twins : ProgressTwins first second one other) (node : Node) :
    ProgressTwins first second (one.add node) (other.add node) := by
  cases twins with
  | pending above twins below spent =>
      cases above with
      | nil =>
          refine .pending [] ?_ below spent
          rw [List.reverse_cons, List.reverse_cons]
          exact twins.append_singleton node
      | cons top above => exact .pending (⟨_, _, node :: top.reversed⟩ :: above) twins below spent
  | root proper spent => exact .root proper spent

theorem addElement {above below : List Pending} {written : String} {opened : Opened}
    {one other : List Node} (twins : ContentTwins first second one.reverse other.reverse)
    (spent : Nat) (node : Node) :
    ProgressTwins first second
      (Progress.addElement ⟨above ++ ⟨written, opened, one⟩ :: below, none, spent⟩ node)
      (Progress.addElement ⟨above ++ ⟨written, opened, other⟩ :: below, none, spent⟩ node) := by
  have nested : ∀ content : List Node,
      0 < Progress.depth ⟨above ++ ⟨written, opened, content⟩ :: below, none, spent⟩ := by
    intro content
    rw [Progress.depth, List.length_append, List.length_cons]
    omega
  rw [Progress.addElement_of_nested (nested one), Progress.addElement_of_nested (nested other)]
  exact add (.pending above twins below spent) node

theorem openTag {one other next : Progress} {tag : Tag} (isOpen : one.IsOpen)
    (twins : ProgressTwins first second one other)
    (opens : one.openTag declared active tag = .ok next) :
    ∃ last, other.openTag declared active tag = .ok last ∧
      ProgressTwins first second next last := by
  cases twins with
  | root proper spent => exact absurd isOpen.nested (Nat.lt_irrefl 0)
  | @pending above written opened one other twins below spent =>
      obtain ⟨found, ofTag, rfl⟩ := Progress.openTag_eq_ok_iff.mp opens
      have sameScope :
          Progress.scope ⟨above ++ ⟨written, opened, other⟩ :: below, none, spent⟩ =
            Progress.scope ⟨above ++ ⟨written, opened, one⟩ :: below, none, spent⟩ := by
        cases above <;> rfl
      refine ⟨_, Progress.openTag_eq_ok_iff.mpr ⟨found, by rw [sameScope]; exact ofTag, rfl⟩, ?_⟩
      split
      · exact addElement twins found.spent _
      · exact .pending (⟨tag.name, found, []⟩ :: above) twins below found.spent

theorem closeTag {one other next : Progress} {written : String} (isOpen : one.IsOpen)
    (twins : ProgressTwins first second one other) (closes : one.closeTag written = .ok next) :
    ∃ last, other.closeTag written = .ok last ∧ ProgressTwins first second next last := by
  cases twins with
  | root proper spent => exact absurd isOpen.nested (Nat.lt_irrefl 0)
  | @pending above name opened one other twins below spent =>
      cases above with
      | nil =>
          -- The element with the spot is closed.
          obtain ⟨_, _, ⟨rfl, rfl⟩, rfl, rfl⟩ := Progress.closeTag_eq_ok_iff.mp closes
          refine ⟨_, Progress.closeTag_eq_ok_iff.mpr ⟨_, _, rfl, rfl, rfl⟩, ?_⟩
          have proper : MarkupNode.isPseudoName opened.name.localName = false :=
            isOpen.proper _ List.mem_cons_self
          obtain ⟨spot, properSpot, sameOne, sameOther⟩ :=
            twins.exists_spot proper opened.attributes
          dsimp only
          rw [sameOne, sameOther]
          cases below with
          | nil => exact .root properSpot spent
          | cons outer below =>
              obtain ⟨outerWritten, outerOpened, outerReversed⟩ := outer
              refine .pending [] ?_ below spent
              rw [List.reverse_cons, List.reverse_cons]
              exact .inside outerReversed.reverse properSpot []
      | cons top above =>
          obtain ⟨_, _, ⟨rfl, rfl⟩, rfl, rfl⟩ := Progress.closeTag_eq_ok_iff.mp closes
          refine ⟨_, Progress.closeTag_eq_ok_iff.mpr ⟨_, _, rfl, rfl, rfl⟩, ?_⟩
          exact addElement twins spent _

theorem isSimulation : IsSimulation (ProgressTwins first second) where
  root_eq := by rintro _ _ (⟨_, _, _, _⟩ | ⟨_, _⟩) <;> rfl
  depth_eq := by
    rintro _ _ (⟨_, _, _, _⟩ | ⟨_, _⟩)
    · simp [Progress.depth]
    · rfl
  spent_eq := by rintro _ _ (⟨_, _, _, _⟩ | ⟨_, _⟩) <;> rfl
  spend := by
    rintro _ _ (⟨above, twins, below, _⟩ | ⟨proper, _⟩) spent
    · exact .pending above twins below spent
    · exact .root proper spent
  add := add
  openTag := openTag
  closeTag := closeTag

end ProgressTwins

/-! ## Runs of data and comments -/

/-- The nodes of a run of data. -/
def dataNodes (run : List Char) : List Node := if run.isEmpty then [] else [.data run]

theorem length_dataNodes_le (run : List Char) : (dataNodes run).length ≤ 1 := by
  unfold dataNodes
  split <;> simp

/-- A state with several nodes added. -/
def Progress.addAll (progress : Progress) (nodes : List Node) : Progress :=
  nodes.foldl Progress.add progress

theorem Progress.addAll_append (progress : Progress) (nodes others : List Node) :
    progress.addAll (nodes ++ others) = (progress.addAll nodes).addAll others :=
  List.foldl_append

theorem Progress.addAll_pending (written : String) (opened : Opened) (reversed : List Node)
    (others : List Pending) (root : Option Node) (spent : Nat) (nodes : List Node) :
    Progress.addAll ⟨⟨written, opened, reversed⟩ :: others, root, spent⟩ nodes =
      ⟨⟨written, opened, nodes.reverse ++ reversed⟩ :: others, root, spent⟩ := by
  induction nodes generalizing reversed with
  | nil => rfl
  | cons node nodes inductionHypothesis =>
      rw [List.reverse_cons, List.append_assoc]
      exact inductionHypothesis (node :: reversed)

theorem Progress.IsOpen.addAll {progress : Progress} (isOpen : progress.IsOpen)
    (nodes : List Node) : (progress.addAll nodes).IsOpen := by
  induction nodes generalizing progress with
  | nil => exact isOpen
  | cons node nodes inductionHypothesis => exact inductionHypothesis (isOpen.add node)

theorem readContent_spanData {progress : Progress} (unclosed : progress.root = none)
    {text run rest : List Char} (spanned : spanData text = (run, rest)) (fuel : Nat) :
    readContent declared 0 (fuel + (dataNodes run).length) active progress text =
      readContent declared 0 fuel active (progress.addAll (dataNodes run)) rest := by
  have whole : run ++ rest = text := by
    simpa [spanned] using spanData_append_self text
  cases run with
  | nil =>
      obtain rfl : rest = text := by simpa using whole
      rfl
  | cons c run =>
      obtain rfl : c :: (run ++ rest) = text := by simpa using whole
      have goesOn : c ≠ '<' ∧ c ≠ '&' := by
        constructor <;> rintro rfl <;> simp [spanData] at spanned
      change readContent declared 0 (fuel + 1) active progress _ = _
      rw [readContent_cons unclosed, readItem_of_data goesOn.1 goesOn.2, spanned]
      rfl

/-- The content of a comment: characters that markup may hold, no two hyphens in a row, and
no hyphen at the end. -/
structure IsComment (content : List Char) : Prop where
  allowed : ∀ c ∈ content, isAllowed c = true
  apart : ¬ ['-', '-'] <:+: content
  ending : content.getLast? ≠ some '-'

theorem isComment_of_no_hyphen {content : List Char} (allowed : content.all isAllowed = true)
    (noHyphen : '-' ∉ content) : IsComment content where
  allowed := List.all_eq_true.mp allowed
  apart := fun hyphens => noHyphen (hyphens.subset List.mem_cons_self)
  ending := fun last => noHyphen (List.mem_of_getLast? last)

/-- Comments as they are written, one behind another. -/
def writtenComments (comments : List (List Char)) : List Char :=
  comments.flatMap fun content => "<!--".toList ++ content ++ "-->".toList

/-- The content of a comment, character by character: behind a hyphen there is something else
than a hyphen. -/
theorem isComment_cons_iff {c : Char} {content : List Char} :
    IsComment (c :: content) ↔
      isAllowed c = true ∧ (c = '-' → ∃ d ∈ content.head?, d ≠ '-') ∧ IsComment content := by
  constructor
  · intro isComment
    refine ⟨isComment.allowed c List.mem_cons_self, ?_, ?_, ?_, ?_⟩
    · rintro rfl
      cases content with
      | nil => exact absurd rfl isComment.ending
      | cons d others =>
          refine ⟨d, rfl, ?_⟩
          rintro rfl
          exact isComment.apart (List.prefix_append ['-', '-'] others).isInfix
    · exact fun d member => isComment.allowed d (List.mem_cons_of_mem c member)
    · exact fun hyphens => isComment.apart (hyphens.trans (List.suffix_cons c content).isInfix)
    · cases content with
      | nil => simp
      | cons d others => simpa [List.getLast?_cons_cons] using isComment.ending
  · rintro ⟨allowed, apart, isComment⟩
    refine ⟨List.forall_mem_cons.mpr ⟨allowed, isComment.allowed⟩, ?_, ?_⟩
    · intro hyphens
      obtain begins | inside := List.infix_cons_iff.mp hyphens
      · obtain ⟨rfl, second⟩ := List.cons_prefix_cons.mp begins
        obtain ⟨others, rfl⟩ := second
        obtain ⟨d, here, different⟩ := apart rfl
        exact different (by simpa using here.symm)
      · exact isComment.apart inside
    · cases content with
      | nil =>
          rintro ⟨⟩
          simpa using apart rfl
      | cons d others => simpa [List.getLast?_cons_cons] using isComment.ending

theorem IsComment.readCommentFrom_eq {content : List Char} (isComment : IsComment content)
    (sofar rest : List Char) :
    readCommentFrom sofar (content ++ "-->".toList ++ rest) =
      .ok (sofar.reverse ++ content, rest) := by
  induction content generalizing sofar with
  | nil => simp [readCommentFrom]
  | cons c content inductionHypothesis =>
      obtain ⟨allowed, apart, remaining⟩ := isComment_cons_iff.mp isComment
      rw [List.cons_append, List.cons_append, readCommentFrom, if_pos allowed]
      · rw [inductionHypothesis remaining, List.reverse_cons, List.append_assoc]
        rfl
      all_goals
        intros
        obtain ⟨d, here, different⟩ := apart (by assumption)
        obtain ⟨others, rfl⟩ := List.head?_eq_some_iff.mp here
        simp_all

theorem IsComment.readContent_eq {content : List Char} (isComment : IsComment content)
    {progress : Progress} (unclosed : progress.root = none) (fuel : Nat) (rest : List Char) :
    readContent declared 0 (fuel + 1) active progress
        ("<!--".toList ++ content ++ "-->".toList ++ rest) =
      readContent declared 0 fuel active (progress.add (.comment content)) rest := by
  have readsItem : readItem ("<!--".toList ++ content ++ "-->".toList ++ rest) =
      .ok (.leaf (.comment content), rest) := by
    have reads := isComment.readCommentFrom_eq [] rest
    simp_all [readItem, readMarkup, readComment, Except.map]
  have begins : "<!--".toList ++ content ++ "-->".toList ++ rest =
      '<' :: ("!--".toList ++ content ++ "-->".toList ++ rest) := rfl
  rw [begins, readContent_cons unclosed, ← begins, readsItem]
  rfl

theorem readContent_writtenComments {comments : List (List Char)}
    (areComments : ∀ content ∈ comments, IsComment content) {progress : Progress}
    (isOpen : progress.IsOpen) (fuel : Nat) (rest : List Char) :
    readContent declared 0 (fuel + comments.length) active progress
        (writtenComments comments ++ rest) =
      readContent declared 0 fuel active (progress.addAll (comments.map .comment)) rest := by
  induction comments generalizing progress with
  | nil => rfl
  | cons content comments inductionHypothesis =>
      rw [List.forall_mem_cons] at areComments
      rw [writtenComments, List.flatMap_cons, List.append_assoc, List.length_cons,
        ← Nat.add_assoc, areComments.1.readContent_eq isOpen.unclosed]
      exact inductionHypothesis areComments.2 (isOpen.add _)

/-! ## The place of the comments -/

/-- A run of data goes on in the data behind it, unless the mark that may not stand in data
arises between the two. -/
theorem spanData_append_of_data {tail : List Char} (data : spanData tail = (tail, []))
    (after : List Char) :
    spanData (tail ++ after) = (tail ++ (spanData after).1, (spanData after).2) ∨
      ∃ run rest, spanData (tail ++ after) = (run, ']' :: rest) := by
  induction tail with
  | nil => exact .inl rfl
  | cons c tail inductionHypothesis =>
      rw [spanData] at data
      rw [List.cons_append, spanData]
      dsimp only at data ⊢
      split at data
      · simp at data
      · next goesOn =>
          have dataBehind : spanData tail = (tail, []) := by
            cases found : spanData tail with
            | mk run rest => simp_all
          split
          · next ends =>
              -- Only the mark can end the run here, and it begins with a bracket.
              obtain ⟨⟨noBracket, noAmpersand, allowed⟩, -⟩ :
                  (c ≠ '<' ∧ c ≠ '&' ∧ isAllowed c = true) ∧ _ := by
                simpa [and_assoc] using goesOn
              obtain ⟨rfl, -⟩ : ']' = c ∧ _ := by
                simpa [noBracket, noAmpersand, allowed] using ends
              exact .inr ⟨[], tail ++ after, rfl⟩
          · obtain spanned | ⟨run, rest, spanned⟩ := inductionHypothesis dataBehind
            · rw [spanned]
              exact .inl rfl
            · rw [spanned]
              exact .inr ⟨_, _, rfl⟩

/-- No data begins behind a run of data. -/
theorem spanData_spanData (text : List Char) :
    spanData (spanData text).2 = ([], (spanData text).2) := by
  induction text with
  | nil => rfl
  | cons c rest inductionHypothesis =>
      by_cases ends : (decide (c = '<') || decide (c = '&') || !isAllowed c ||
          [']', ']', '>'].isPrefixOf (c :: rest)) = true
      · have here : spanData (c :: rest) = ([], c :: rest) := by
          rw [spanData]
          exact if_pos ends
        rw [here, here]
      · have behind : (spanData (c :: rest)).2 = (spanData rest).2 := by
          rw [spanData]
          dsimp only
          rw [if_neg ends]
        rw [behind, inductionHypothesis]

/-- A bracket ends a run of data. -/
theorem spanData_append_bracket {tail : List Char} (data : spanData tail = (tail, []))
    (rest : List Char) : spanData (tail ++ '<' :: rest) = (tail, '<' :: rest) := by
  induction tail with
  | nil => simp [spanData]
  | cons c tail inductionHypothesis =>
      rw [spanData] at data
      rw [List.cons_append, spanData]
      dsimp only at data ⊢
      split at data
      · simp at data
      · next goesOn =>
          have dataBehind : spanData tail = (tail, []) := by
            cases found : spanData tail with
            | mk run rest => simp_all
          have goesOnToo : ¬ (decide (c = '<') || decide (c = '&') || !isAllowed c ||
              [']', ']', '>'].isPrefixOf (c :: (tail ++ '<' :: rest))) = true := by
            cases tail with
            | nil => simpa using goesOn
            | cons d tail => cases tail <;> simpa using goesOn
          rw [if_neg goesOnToo, inductionHypothesis dataBehind]

/-- If content can be read, so can what follows the data at its beginning. -/
theorem readContent_behind_data {progress : Progress} (unclosed : progress.root = none)
    {text run rest : List Char} (spanned : spanData text = (run, rest))
    {outcome : Progress × List Char}
    (reads : readContent declared 0 fuel active progress text = .ok outcome) :
    ∃ left, fuel = left + (dataNodes run).length ∧
      readContent declared 0 left active (progress.addAll (dataNodes run)) rest = .ok outcome := by
  have atMostOne := length_dataNodes_le run
  have someFuel : fuel ≠ 0 := by
    rintro rfl
    simp [readContent] at reads
  obtain ⟨left, rfl⟩ : ∃ left, fuel = left + (dataNodes run).length :=
    ⟨fuel - (dataNodes run).length, by omega⟩
  exact ⟨left, rfl, by rwa [readContent_spanData unclosed spanned] at reads⟩

/-- Content in which data is followed by what looks like the end of a section is refused. -/
theorem readContent_ne_ok_of_mark {progress : Progress} (isOpen : progress.IsOpen)
    {text run rest : List Char} (spanned : spanData text = (run, ']' :: rest))
    {outcome : Progress × List Char} :
    readContent declared 0 fuel active progress text ≠ .ok outcome := by
  intro reads
  obtain ⟨left, -, reads⟩ := readContent_behind_data isOpen.unclosed spanned reads
  have noData : spanData (']' :: rest) = ([], ']' :: rest) := by
    simpa [spanned] using spanData_spanData text
  cases left with
  | zero => simp [readContent] at reads
  | succ left =>
      rw [readContent_cons (isOpen.addAll _).unclosed,
        readItem_of_data (by decide) (by decide), noData] at reads
      simp at reads

theorem Progress.IsOpen.addAll_twins {place : Progress} (isOpen : place.IsOpen) :
    ProgressTwins first second (place.addAll first) (place.addAll second) := by
  obtain ⟨pending, root, spent⟩ := place
  obtain rfl : root = none := isOpen.unclosed
  cases pending with
  | nil => exact absurd isOpen.nested (Nat.lt_irrefl 0)
  | cons top others =>
      obtain ⟨written, opened, reversed⟩ := top
      rw [addAll_pending, addAll_pending]
      refine .pending [] ?_ others spent
      rw [List.reverse_append, List.reverse_append, List.reverse_reverse, List.reverse_reverse]
      simpa using @ContentTwins.here first second reversed.reverse []

/-- **Comments between the characters of content.**  If the content behind a place is
well-formed, with a run of data in front of it, then it is so with comments in between; and the
two trees are the same but for one spot.  The data behind the comments may be written in another
way, as long as the same follows it. -/
theorem readContent_spliced {place ended : Progress} (isOpen : place.IsOpen)
    {tail after written rest : List Char} (data : spanData tail = (tail, []))
    (behind : (spanData written).2 = (spanData after).2) {comments : List (List Char)}
    (areComments : ∀ content ∈ comments, IsComment content) (present : comments ≠ [])
    (enough : fuel + comments.length + 2 ≤ more)
    (reads : readContent declared 0 fuel active place (tail ++ after) = .ok (ended, rest)) :
    ∃ spot : Spot, ∃ spliced, spot.IsProper ∧
      ended.root = some (spot.fill (dataNodes (tail ++ (spanData after).1))) ∧
      readContent declared 0 more active place (tail ++ (writtenComments comments ++ written)) =
          .ok (spliced, rest) ∧
      spliced.root =
        some (spot.fill
          (dataNodes tail ++ comments.map .comment ++ dataNodes (spanData written).1)) := by
  obtain spanned | ⟨run, marked, spanned⟩ := spanData_append_of_data data after
  · obtain ⟨left, rfl, readsBehind⟩ := readContent_behind_data isOpen.unclosed spanned reads
    have spannedBehind : spanData written = ((spanData written).1, (spanData after).2) :=
      Prod.ext rfl behind
    -- The data in front, the comments and the data behind are read one after another.
    have pieces : ∀ left,
        readContent declared 0
            (left + (dataNodes (spanData written).1).length + comments.length +
              (dataNodes tail).length) active place
            (tail ++ (writtenComments comments ++ written)) =
          readContent declared 0 left active
            (place.addAll
              (dataNodes tail ++ comments.map .comment ++ dataNodes (spanData written).1))
            (spanData after).2 := by
      intro left
      obtain ⟨opening, begins⟩ :
          ∃ opening, writtenComments comments ++ written = '<' :: opening := by
        obtain ⟨content, others, rfl⟩ := List.exists_cons_of_ne_nil present
        exact ⟨_, rfl⟩
      have spannedTail := spanData_append_bracket data opening
      rw [← begins] at spannedTail
      rw [readContent_spanData isOpen.unclosed spannedTail,
        readContent_writtenComments areComments (isOpen.addAll _),
        readContent_spanData ((isOpen.addAll _).addAll _).unclosed spannedBehind,
        Progress.addAll_append, Progress.addAll_append]
    -- From there on the two runs go in lockstep.
    have shortRun := length_dataNodes_le (spanData written).1
    have shortTail := length_dataNodes_le tail
    obtain ⟨left', rfl⟩ : ∃ left', more =
        left' + (dataNodes (spanData written).1).length + comments.length +
          (dataNodes tail).length :=
      ⟨more - ((dataNodes (spanData written).1).length + comments.length +
        (dataNodes tail).length), by omega⟩
    obtain ⟨spliced, readsSpliced, twins⟩ :=
      readContent_simulates ProgressTwins.isSimulation (show left ≤ left' by omega)
        (isOpen.addAll (dataNodes (tail ++ (spanData after).1))) (Nat.zero_le _)
        isOpen.addAll_twins readsBehind
    have closed : ended.root.isSome = true :=
      readContent_endsAt (isOpen.addAll _) (Nat.zero_le _) readsBehind
    cases twins with
    | pending above twins below spent => simp at closed
    | @root spot proper spent =>
        exact ⟨spot, _, proper, rfl, (pieces left').trans readsSpliced, rfl⟩
  · exact absurd reads (readContent_ne_ok_of_mark isOpen spanned)

end CommandHost.Xml
