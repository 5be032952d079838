import CommandHost.Proofs.Xml.Front
import CommandHost.Proofs.Xml.Splice

/-!
# Comments in a document

A place in a text is a place in content if the text up to there is read without any fault but
that the root element does not end (`endsInContent`).  With comments at such a place a
well-formed text stays well-formed, and its tree is the same but for the spot with the comments
(`Insertion.exists_spot`).
-/

namespace CommandHost.Xml

/-! ## Documents that are read character by character -/

/-- Only the character with the number zero has a zero byte. -/
theorem eq_null_of_zero_mem {c : Char} (member : 0 ∈ String.utf8EncodeChar c) : c = '\x00' := by
  have isZero : ∀ {number : Nat}, 0 = UInt8.ofNat number → number % 256 = 0 := by
    intro number same
    simpa using (congrArg UInt8.toNat same).symm
  rw [String.utf8EncodeChar.eq_def] at member
  dsimp only at member
  split at member
  · next ascii =>
      have code : c.val.toNat % 256 = 0 := isZero (List.mem_singleton.mp member)
      have zero : c.val.toNat = 0 := by omega
      exact Char.ext (UInt32.toNat_inj.mp zero)
  · -- The bytes of the other characters have their highest bit set.
    have noZero : ∀ {number : Nat}, 128 ≤ number → number < 256 → 0 ≠ UInt8.ofNat number := by
      intro number above below same
      have := isZero same
      omega
    split at member
    · simp (disch := omega) only [List.mem_cons, noZero, List.not_mem_nil, or_self] at member
    · split at member
      · simp (disch := omega) only [List.mem_cons, noZero, List.not_mem_nil, or_self] at member
      · simp (disch := omega) only [List.mem_cons, noZero, List.not_mem_nil, or_self] at member

theorem toList_toByteArray (bytes : List UInt8) : bytes.toByteArray.toList = bytes := by
  have loop : ∀ (array : ByteArray) (index : Nat) (sofar : List UInt8),
      ByteArray.toList.loop array index sofar =
        sofar.reverse ++ array.data.toList.drop index := by
    intro array index sofar
    fun_induction ByteArray.toList.loop array index sofar with
    | case1 index sofar inside inductionHypothesis =>
        have bound : index < array.data.toList.length := by simpa using inside
        rw [inductionHypothesis, List.drop_eq_getElem_cons bound]
        simp [ByteArray.get!, inside]
    | case2 index sofar outside =>
        rw [List.drop_eq_nil_of_le (by simpa using outside), List.append_nil]
  rw [ByteArray.toList, loop, List.toList_data_toByteArray]
  rfl

theorem toList_toUTF8 (text : String) :
    text.toUTF8.toList = text.toList.flatMap String.utf8EncodeChar := by
  rw [String.toUTF8_eq_toByteArray, ← String.utf8Encode_toList, List.utf8Encode]
  exact toList_toByteArray _

theorem paired?_of_noNull {document : String} (noNull : '\x00' ∉ document.toList) :
    paired? document = none := by
  have noZero : ∀ byte ∈ document.toUTF8.toList, byte ≠ 0 := by
    rintro byte member rfl
    rw [toList_toUTF8] at member
    obtain ⟨c, memberChar, member⟩ := List.mem_flatMap.mp member
    exact noNull (eq_null_of_zero_mem member ▸ memberChar)
  unfold paired?
  dsimp only
  split
  · next same => simp_all
  · next same => simp_all
  · rfl

/-- The characters of a document, with plain line ends and without the mark at its beginning. -/
def plainText (document : String) : List Char :=
  let text := Text.plainBreaks document.toList
  if text.head? = some orderMark then text.tail else text

theorem parse_of_noNull {document : String} (noNull : '\x00' ∉ document.toList) :
    parse document = parseChars (plainText document) := by
  rw [parse, paired?_of_noNull noNull]
  rfl

theorem parseChars_eq_ok_iff {text : List Char} {root : Node} :
    parseChars text = .ok root ↔
      ∃ declared body ended rest,
        readFront (text.length + 1) ⟨.start, .nothing⟩ text = .ok (declared, body) ∧
        readContent declared 0 (body.length + declared.size + 2) [] ⟨[], none, 0⟩ body =
          .ok (ended, rest) ∧
        readBack (rest.length + 1) rest = .ok () ∧ ended.root = some root := by
  rw [parseChars, bind_eq_ok_iff, Prod.exists]
  refine exists_congr fun declared => exists_congr fun body => ?_
  dsimp only
  rw [bind_eq_ok_iff, Prod.exists]
  simp only [bind_eq_ok_iff, exists_and_left]
  refine and_congr_right fun _ => exists_congr fun ended => exists_congr fun rest =>
    and_congr_right fun _ => ?_
  constructor
  · rintro ⟨_, readsBack, found⟩
    cases same : ended.root with
    | none => simp [same] at found
    | some last => exact ⟨readsBack, by simpa [same] using found⟩
  · rintro ⟨readsBack, found⟩
    exact ⟨(), readsBack, by rw [found]; rfl⟩

theorem isBlankText_of_parse {document : String} (noNull : '\x00' ∉ document.toList) {root : Node}
    (parses : parse document = .ok root) : Text.isBlankText document.toList = false := by
  rw [parse_of_noNull noNull] at parses
  obtain ⟨_, _, _, _, readsFront, -⟩ := parseChars_eq_ok_iff.mp parses
  by_contra blank
  have allBlank : ∀ c ∈ document.toList, Text.isBlank c = true := by
    simpa [Text.isBlankText] using blank
  have stillBlank : ∀ c ∈ plainText document, Text.isBlank c = true := by
    intro c member
    have inPlain : c ∈ Text.plainBreaks document.toList := by
      unfold plainText at member
      dsimp only at member
      split at member
      · exact List.mem_of_mem_tail member
      · exact member
    obtain rfl | inside := Text.eq_or_mem_of_mem_plainBreaks inPlain
    · decide
    · exact allBlank c inside
  obtain ⟨fault, refused⟩ := readFront_of_blank stillBlank
  rw [refused] at readsFront
  simp at readsFront

/-! ## Places in content -/

/-- Whether a text ends in the content of an element: all there is to say against it is that
the root element does not end. -/
def endsInContent (text : List Char) : Bool :=
  match readFront (text.length + 1) ⟨.start, .nothing⟩ text with
  | .ok (declared, body) =>
    let fuel := body.length + declared.size + 2
    match readContent declared 0 fuel [] ⟨[], none, 0⟩ body with
    | .error fault => fault = .noElement
    | .ok _ => false
  | .error _ => false

theorem endsInContent_iff {text : List Char} :
    endsInContent text = true ↔
      ∃ declared body,
        readFront (text.length + 1) ⟨.start, .nothing⟩ text = .ok (declared, body) ∧
        readContent declared 0 (body.length + declared.size + 2) [] ⟨[], none, 0⟩ body =
          .error .noElement := by
  unfold endsInContent
  constructor
  · intro inContent
    split at inContent
    · next declared body readsFront =>
        dsimp only at inContent
        split at inContent
        · next fault missing =>
            obtain rfl : fault = .noElement := by simpa using inContent
            exact ⟨declared, body, readsFront, missing⟩
        · simp at inContent
    · simp at inContent
  · rintro ⟨declared, body, readsFront, missing⟩
    rw [readsFront]
    dsimp only
    rw [missing]
    rfl

/-- From a place in content on, a document is read in the same way whatever stands there. -/
theorem exists_place {text : List Char} (inContent : endsInContent text = true) :
    ∃ declared left place tail, place.IsOpen ∧ spanData tail = (tail, []) ∧
      ∀ after root, parseChars (text ++ after) = .ok root ↔
        ∃ ended rest,
          readContent declared 0 (left + after.length) [] place (tail ++ after) =
            .ok (ended, rest) ∧
          readBack (rest.length + 1) rest = .ok () ∧ ended.root = some root := by
  obtain ⟨declared, body, readsFront, missing⟩ := endsInContent_iff.mp inContent
  obtain ⟨d, others, rfl, starts⟩ := exists_bracket_of_readFront readsFront
  obtain ⟨left, place, tail, stands⟩ := exists_standsAt_outermost starts missing
  refine ⟨declared, left, place, tail, stands.isOpen, stands.data, fun after root => ?_⟩
  have readsLonger := readFront_append
    (show text.length + 1 ≤ (text ++ after).length + 1 by simp) readsFront after
  have fuel : ('<' :: d :: others ++ after).length + declared.size + 2 =
      ('<' :: d :: others).length + declared.size + 2 + after.length := by
    rw [List.length_append]
    omega
  rw [parseChars_eq_ok_iff]
  constructor
  · rintro ⟨declared', body, ended, rest, reads, readsContent, ends⟩
    rw [readsLonger] at reads
    obtain ⟨rfl, rfl⟩ : declared = declared' ∧ '<' :: d :: others ++ after = body := by
      simpa using reads
    rw [fuel, stands.readContent_eq] at readsContent
    exact ⟨ended, rest, readsContent, ends⟩
  · rintro ⟨ended, rest, readsContent, ends⟩
    refine ⟨declared, _, ended, rest, readsLonger, ?_, ends⟩
    rw [fuel, stands.readContent_eq]
    exact readsContent

/-! ## Line ends in and around comments -/

theorem plainBreaks_append_of_ne {text after : List Char} (apart : after.head? ≠ some '\n') :
    Text.plainBreaks (text ++ after) = Text.plainBreaks text ++ Text.plainBreaks after := by
  rw [Text.plainBreaks_append, if_neg fun both => apart both.2]

theorem IsComment.plainBreaks {content : List Char} (isComment : IsComment content) :
    IsComment (Text.plainBreaks content) := by
  fun_induction Text.plainBreaks content with
  | case1 => exact isComment
  | case2 rest inductionHypothesis =>
      have remaining := (isComment_cons_iff.mp (isComment_cons_iff.mp isComment).2.2).2.2
      exact isComment_cons_iff.mpr ⟨by decide, by simp, inductionHypothesis remaining⟩
  | case3 rest noFeed inductionHypothesis =>
      have remaining := (isComment_cons_iff.mp isComment).2.2
      exact isComment_cons_iff.mpr ⟨by decide, by simp, inductionHypothesis remaining⟩
  | case4 c rest noBreak noReturn inductionHypothesis =>
      obtain ⟨allowed, apart, remaining⟩ := isComment_cons_iff.mp isComment
      refine isComment_cons_iff.mpr ⟨allowed, fun hyphen => ?_, inductionHypothesis remaining⟩
      obtain ⟨d, here, different⟩ := apart hyphen
      obtain ⟨others, rfl⟩ := List.head?_eq_some_iff.mp here
      rw [Text.plainBreaks.eq_def]
      split <;> simp_all

theorem spanData_feed (rest : List Char) :
    spanData ('\n' :: rest) = ('\n' :: (spanData rest).1, (spanData rest).2) := by
  have allowed : isAllowed '\n' = true := by decide
  simp [spanData, allowed]

theorem length_writtenComments (comments : List (List Char)) :
    comments.length * 7 ≤ (writtenComments comments).length := by
  induction comments with
  | nil => simp
  | cons content comments inductionHypothesis =>
      have written : (writtenComments (content :: comments)).length =
          content.length + 7 + (writtenComments comments).length := by
        simp [writtenComments]
        omega
      rw [written, List.length_cons]
      omega

theorem plainBreaks_writtenComments (comments : List (List Char)) (after : List Char) :
    Text.plainBreaks (writtenComments comments ++ after) =
      writtenComments (comments.map Text.plainBreaks) ++ Text.plainBreaks after := by
  induction comments with
  | nil => rfl
  | cons content comments inductionHypothesis =>
      have ending : Text.plainBreaks ("-->".toList ++ (writtenComments comments ++ after)) =
          "-->".toList ++ Text.plainBreaks (writtenComments comments ++ after) := rfl
      have beginning : Text.plainBreaks ("<!--".toList ++
          (content ++ ("-->".toList ++ (writtenComments comments ++ after)))) =
          "<!--".toList ++
            Text.plainBreaks (content ++ ("-->".toList ++ (writtenComments comments ++ after))) :=
        rfl
      have apart : ("-->".toList ++ (writtenComments comments ++ after)).head? ≠ some '\n' := by
        simp
      simp only [writtenComments, List.flatMap_cons, List.map_cons, List.append_assoc] at *
      rw [beginning, plainBreaks_append_of_ne apart, ending, inductionHypothesis]

/-- Of two texts in a row the first one is read up to its end, and of the second one what the
last line end of the first one leaves. -/
theorem plainText_append {before : String} (solid : plainText before ≠ []) (after : String) :
    plainText (before ++ after) = plainText before ++
      Text.plainBreaks (if before.toList.getLast? = some '\r' ∧ after.toList.head? = some '\n'
        then after.toList.tail else after.toList) := by
  have begins : Text.plainBreaks before.toList ≠ [] := by
    intro empty
    simp [plainText, empty] at solid
  obtain ⟨c, rest, same⟩ := List.exists_cons_of_ne_nil begins
  unfold plainText
  rw [String.toList_append, Text.plainBreaks_append, same]
  by_cases marked : c = orderMark <;> simp [marked]

/-! ## Comments at a place in content -/

/-- Comments that are written into a well-formed markup text, at a place in the content of one
of its elements.  The null character is none of markup. -/
structure Insertion where
  before : String
  after : String
  comments : List (List Char)
  noNull : '\x00' ∉ (before ++ after).toList
  wellFormed : (parse (before ++ after)).isOk = true
  inContent : endsInContent (plainText before) = true
  present : comments ≠ []
  areComments : ∀ content ∈ comments, IsComment content

namespace Insertion

variable (insertion : Insertion)

/-- The text without the comments. -/
def plain : String := insertion.before ++ insertion.after

/-- The text with the comments. -/
def commented : String :=
  insertion.before ++ String.ofList (writtenComments insertion.comments) ++ insertion.after

/-- The comments as they are read. -/
def plainComments : List (List Char) := insertion.comments.map Text.plainBreaks

theorem plainComments_ne_nil : insertion.plainComments ≠ [] := by
  simpa [plainComments] using insertion.present

theorem isComment_of_mem_plainComments :
    ∀ content ∈ insertion.plainComments, IsComment content :=
  List.forall_mem_map.mpr fun content member => (insertion.areComments content member).plainBreaks

theorem noNull_commented : '\x00' ∉ insertion.commented.toList := by
  have noNull := insertion.noNull
  have noNullWritten : '\x00' ∉ writtenComments insertion.comments := by
    intro member
    obtain ⟨content, isWritten, member⟩ := List.mem_flatMap.mp member
    have absent : '\x00' ∉ content := by
      intro inside
      have allowed := (insertion.areComments content isWritten).allowed _ inside
      revert allowed
      decide
    simp_all
  simp_all [commented]

theorem noNull_plain : '\x00' ∉ insertion.plain.toList := insertion.noNull

theorem exists_root : ∃ root, parse insertion.plain = .ok root := by
  have wellFormed := insertion.wellFormed
  rw [← plain] at wellFormed
  cases parses : parse insertion.plain with
  | error fault => simp [parses, Except.isOk, Except.toBool] at wellFormed
  | ok root => exact ⟨root, rfl⟩

theorem plainText_before_ne_nil : plainText insertion.before ≠ [] := by
  intro empty
  have inContent := insertion.inContent
  rw [empty] at inContent
  revert inContent
  decide

theorem plainText_commented :
    plainText insertion.commented = plainText insertion.before ++
      (writtenComments insertion.plainComments ++
        Text.plainBreaks insertion.after.toList) := by
  obtain ⟨content, others, same⟩ := List.exists_cons_of_ne_nil insertion.present
  have apart : (String.ofList (writtenComments insertion.comments) ++
      insertion.after).toList.head? ≠ some '\n' := by
    simp [same, writtenComments]
  rw [commented, String.append_assoc, plainText_append insertion.plainText_before_ne_nil,
    if_neg fun both => apart both.2, String.toList_append, String.toList_ofList,
    plainBreaks_writtenComments, plainComments]

/-- Without the comments, a line feed at the beginning of the second part may belong to the
line end at the end of the first part. -/
theorem exists_plainText_plain :
    ∃ rest : List Char,
      plainText insertion.plain = plainText insertion.before ++ rest ∧
      (Text.plainBreaks insertion.after.toList = rest ∨
        Text.plainBreaks insertion.after.toList = '\n' :: rest) := by
  refine ⟨_, plainText_append insertion.plainText_before_ne_nil insertion.after, ?_⟩
  split
  · next wedge =>
      obtain ⟨others, same⟩ := List.head?_eq_some_iff.mp wedge.2
      exact .inr (by rw [same]; rfl)
  · exact .inl rfl

/-- **Comments in a document.**  The document is well-formed with the comments too, and the
two trees are the same but for one spot: there the one has a run of data, and the other the two
parts of the run with the comments in between.  A line end that the comments cut in two counts
as two, so that the second part may have one more line feed. -/
theorem exists_spot :
    ∃ spot : Spot, ∃ front back behind, spot.IsProper ∧ (behind = back ∨ behind = '\n' :: back) ∧
      parse insertion.plain = .ok (spot.fill (dataNodes (front ++ back))) ∧
      parse insertion.commented = .ok (spot.fill (dataNodes front ++
        insertion.plainComments.map .comment ++ dataNodes behind)) := by
  obtain ⟨declared, left, place, tail, isOpen, data, reads⟩ := exists_place insertion.inContent
  obtain ⟨rest, plainText_plain, feed⟩ := insertion.exists_plainText_plain
  obtain ⟨root, wellFormed⟩ := insertion.exists_root
  rw [parse_of_noNull insertion.noNull_plain, plainText_plain, reads] at wellFormed
  obtain ⟨ended, last, readsContent, readsBack, closed⟩ := wellFormed
  have spanned : (spanData (Text.plainBreaks insertion.after.toList)).2 = (spanData rest).2 ∧
      ((spanData (Text.plainBreaks insertion.after.toList)).1 = (spanData rest).1 ∨
        (spanData (Text.plainBreaks insertion.after.toList)).1 = '\n' :: (spanData rest).1) := by
    obtain same | same := feed
    · simp [same]
    · simp [same, spanData_feed]
  have enough : left + rest.length + insertion.plainComments.length + 2 ≤
      left + (writtenComments insertion.plainComments ++
        Text.plainBreaks insertion.after.toList).length := by
    have written := length_writtenComments insertion.plainComments
    have someComment := List.length_pos_iff.mpr insertion.plainComments_ne_nil
    rw [List.length_append]
    obtain same | same := feed <;> rw [same]
    · omega
    · rw [List.length_cons]
      omega
  obtain ⟨spot, spliced, proper, filled, readsSpliced, filledSpliced⟩ :=
    readContent_spliced isOpen data spanned.1 insertion.isComment_of_mem_plainComments
      insertion.plainComments_ne_nil enough readsContent
  refine ⟨spot, tail, _, _, proper, spanned.2, ?_, ?_⟩
  · rw [parse_of_noNull insertion.noNull_plain, plainText_plain, reads]
    exact ⟨ended, last, readsContent, readsBack, filled⟩
  · rw [parse_of_noNull insertion.noNull_commented, insertion.plainText_commented, reads]
    exact ⟨spliced, last, readsSpliced, readsBack, filledSpliced⟩

end Insertion

end CommandHost.Xml
