/-!
# Line ends

A line can end with a carriage return, a line feed, or both in this order.
`plainBreaks` writes each of them as one line feed.
-/

namespace CommandHost.Text

/-- A text with each line end written as a line feed. -/
def plainBreaks : List Char → List Char
  | [] => []
  | '\r' :: '\n' :: rest => '\n' :: plainBreaks rest
  | '\r' :: rest => '\n' :: plainBreaks rest
  | c :: rest => c :: plainBreaks rest

/-- The text has no carriage return afterwards. -/
theorem not_mem_plainBreaks (text : List Char) : '\r' ∉ plainBreaks text := by
  fun_induction plainBreaks text with
  | case1 => simp
  | case2 rest inductionHypothesis => simpa using inductionHypothesis
  | case3 rest _ inductionHypothesis => simpa using inductionHypothesis
  | case4 c rest _ notReturn inductionHypothesis =>
    simp only [List.mem_cons, not_or]
    exact ⟨fun equality => notReturn equality.symm, inductionHypothesis⟩

theorem eq_or_mem_of_mem_plainBreaks {c : Char} {text : List Char}
    (member : c ∈ plainBreaks text) : c = '\n' ∨ c ∈ text := by
  fun_induction plainBreaks text with
  | case1 => simp at member
  | case2 rest inductionHypothesis =>
    obtain rfl | inside := List.mem_cons.mp member
    · exact .inl rfl
    · exact (inductionHypothesis inside).imp_right fun found => by simp [found]
  | case3 rest _ inductionHypothesis =>
    obtain rfl | inside := List.mem_cons.mp member
    · exact .inl rfl
    · exact (inductionHypothesis inside).imp_right (List.mem_cons_of_mem _)
  | case4 d rest _ _ inductionHypothesis =>
    obtain rfl | inside := List.mem_cons.mp member
    · exact .inr List.mem_cons_self
    · exact (inductionHypothesis inside).imp_right (List.mem_cons_of_mem _)

theorem plainBreaks_cons {c : Char} (noReturn : c ≠ '\r') (rest : List Char) :
    plainBreaks (c :: rest) = c :: plainBreaks rest := by
  rw [plainBreaks] <;> simp_all

theorem plainBreaks_return {rest : List Char} (noFeed : rest.head? ≠ some '\n') :
    plainBreaks ('\r' :: rest) = '\n' :: plainBreaks rest := by
  rw [plainBreaks]
  rintro others rfl
  exact noFeed rfl

/-- Two texts in a row: only a line end that begins in the first one and ends in the second one
is less than the line ends of the two. -/
theorem plainBreaks_append (text after : List Char) :
    plainBreaks (text ++ after) =
      plainBreaks text ++
        plainBreaks (if text.getLast? = some '\r' ∧ after.head? = some '\n' then after.tail
          else after) := by
  fun_induction plainBreaks text with
  | case1 => simp
  | case2 rest inductionHypothesis =>
      have last : ('\r' :: '\n' :: rest).getLast? = some '\r' ↔ rest.getLast? = some '\r' := by
        cases rest <;> simp
      simp only [last, List.cons_append, plainBreaks, inductionHypothesis]
  | case3 rest noFeed inductionHypothesis =>
      cases rest with
      | nil =>
          by_cases feed : after.head? = some '\n'
          · obtain ⟨others, rfl⟩ := List.head?_eq_some_iff.mp feed
            rfl
          · rw [if_neg (by simp [feed])]
            exact plainBreaks_return feed
      | cons c rest =>
          have noFeed : c ≠ '\n' := by
            rintro rfl
            exact noFeed rest rfl
          rw [List.cons_append, plainBreaks_return (by simpa using noFeed), inductionHypothesis,
            List.getLast?_cons_cons]
          rfl
  | case4 c rest noBreak noReturn inductionHypothesis =>
      have last : (c :: rest).getLast? = some '\r' ↔ rest.getLast? = some '\r' := by
        cases rest with
        | nil => simpa using noReturn
        | cons d rest => simp
      rw [List.cons_append, plainBreaks_cons noReturn, inductionHypothesis, List.cons_append]
      simp only [last]

end CommandHost.Text
