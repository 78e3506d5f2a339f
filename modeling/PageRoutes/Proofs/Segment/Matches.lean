import PageRoutes.Proofs.Segment.Tokens
/-!
# The path by a search for groups

The path of a name can be made in a loop over its bracket groups, as a search from left to right
finds them: the groups are pieces of the name by their indices, and behind a group the search goes
on. The loop keeps the path so far and the index behind the last group. For each group it writes the
text since that index, a colon and the text of the group. A slash comes in front if there is no text
and the index is not that of the beginning, so that a group has been written before.

## Main definitions

* `Segment.Match`, `Segment.matchesFrom` : the groups that a search finds, by their indices.
* `Segment.pathByMatches?` : the path that the loop makes.

## Main results

* `Segment.foldl_pushMatch` : what the loop makes of the groups of some tokens.
* `Segment.dynamicPath?_eq_pathByMatches?` : the loop makes the path of every name.
-/

namespace PageRoutes.Segment

/-- A piece of a text, from one index to the one behind its end. -/
structure Match where
  start : Nat
  stop : Nat

/-- The characters of a text from one index to the one in front of another. -/
def slice (cs : List Char) (start stop : Nat) : List Char := (cs.drop start).take (stop - start)

/-- The groups that a search from left to right finds in a text which begins at an index. Behind a
group the search goes on, so that groups do not overlap. -/
def matchesFrom (index : Nat) : List Char → List Match
  | [] => []
  | c :: rest =>
    match _h : leadingGroup? (c :: rest) with
    | some (text, behind) =>
      let stop := index + (text.length + 2)
      ⟨index, stop⟩ :: matchesFrom stop behind
    | none => matchesFrom (index + 1) rest
termination_by cs => cs.length
decreasing_by
  · exact length_lt_of_leadingGroup? ‹_›
  · exact Nat.lt_succ_self _

/-- What the loop does with a group, given the path so far and the index behind the last group. -/
def pushMatch (name : List Char) (state : List Char × Nat) (found : Match) : List Char × Nat :=
  let (path, last) := state
  let literal := slice name last found.start
  let path := if literal.isEmpty && 0 < last then path ++ ['/'] else path
  (path ++ literal ++ ':' :: slice name (found.start + 1) (found.stop - 1), found.stop)

/-- The path of a name with at least one bracket group, by a loop over the groups that are found.
The text behind the last one is written at the end. -/
def pathByMatches? (name : List Char) : Option (List Char) :=
  let found := matchesFrom 0 name
  if found.isEmpty then none
  else
    let (path, last) := found.foldl (pushMatch name) (['/'], 0)
    some (path ++ name.drop last)

/-! ### The groups of tokens -/

/-- The groups of tokens, by their indices in a text which begins at an index. -/
def matchesOf (index : Nat) : List Token → List Match
  | [] => []
  | .literal text :: rest => matchesOf (index + text.length) rest
  | .group text :: rest =>
    ⟨index, index + (text.length + 2)⟩ :: matchesOf (index + (text.length + 2)) rest

theorem matchesOf_pushLiteral (index : Nat) (c : Char) (ts : List Token) :
    matchesOf index (pushLiteral c ts) = matchesOf (index + 1) ts := by
  fun_cases pushLiteral c ts with
  | case1 text rest =>
    rw [matchesOf, matchesOf, List.length_cons, Nat.add_right_comm, Nat.add_assoc]
  | case2 => rfl

/-- The search finds the groups of the cut. -/
theorem matchesFrom_eq_matchesOf (index : Nat) (cs : List Char) :
    matchesFrom index cs = matchesOf index (tokens cs) := by
  fun_induction matchesFrom index cs with
  | case1 => rw [tokens, matchesOf]
  | case2 index c rest text behind hgroup stop ih =>
    obtain ⟨htext, hcs⟩ := leadingGroup?_eq_some_iff.mp hgroup
    rw [hcs, tokens_of_group htext, matchesOf, ← ih]
  | case3 index c rest hnone ih =>
    rw [tokens_of_leadingGroup?_eq_none hnone, matchesOf_pushLiteral, ih]

theorem isEmpty_matchesOf (index : Nat) (ts : List Token) :
    (matchesOf index ts).isEmpty = !ts.any Token.isGroup := by
  fun_induction matchesOf index ts with
  | case1 => rfl
  | case2 index text rest ih => simpa [Token.isGroup] using ih
  | case3 => rfl

/-! ### The loop -/

theorem slice_append_append (front text behind : List Char) :
    slice (front ++ (text ++ behind)) front.length (front.length + text.length) = text := by
  rw [slice, List.drop_left, Nat.add_sub_cancel_left, List.take_left]

/-- The text of a group, without its brackets. -/
theorem slice_group (front text behind : List Char) :
    slice (front ++ ((Token.group text).chars ++ behind)) (front.length + 1)
      (front.length + (text.length + 2) - 1) = text := by
  have hname : front ++ ((Token.group text).chars ++ behind) =
      (front ++ ['[']) ++ (text ++ ']' :: behind) := by
    simp [Token.chars]
  have hstop : front.length + (text.length + 2) - 1 = (front ++ ['[']).length + text.length := by
    simp only [List.length_append, List.length_singleton]
    omega
  have hstart : front.length + 1 = (front ++ ['[']).length := by simp
  rw [hname, hstart, hstop, slice_append_append]

/-- **The loop.** Let a name be made of what was written, literal text that was not, and tokens.
Then the loop over the groups of the tokens adds the text and the tokens to the path, with a slash
in front if there is no text and two groups come together. -/
theorem foldl_pushMatch {ts : List Token} (front literal path : List Char)
    (hliteral : ∀ text, .literal text ∈ ts → text ≠ [])
    (hchain : ts.IsChain fun s t ↦ s.isGroup ∨ t.isGroup)
    (hhead : literal ≠ [] → ∀ t ∈ ts.head?, t.isGroup) :
    let name := front ++ (literal ++ ts.flatMap Token.chars)
    let end_ := (matchesOf (front.length + literal.length) ts).foldl (pushMatch name)
      (path, front.length)
    end_.1 ++ name.drop end_.2 =
      path ++ ((if literal.isEmpty && 0 < front.length then separator ts else []) ++
        (literal ++ writeTokens ts)) := by
  induction ts generalizing front literal path with
  | nil => simp [matchesOf, writeTokens, separator]
  | cons t ts ih =>
    have hrest : ∀ text, .literal text ∈ ts → text ≠ [] :=
      fun text hmem ↦ hliteral text (List.mem_cons_of_mem t hmem)
    obtain ⟨hnext, htail⟩ := List.isChain_cons.mp hchain
    cases t with
    | literal text =>
      -- There is no literal text before, as the token in front was a group.
      obtain rfl : literal = [] := by
        by_contra hne
        exact absurd (hhead hne _ rfl) (by simp [Token.isGroup])
      have hempty : text.isEmpty = false := by simpa using hliteral text List.mem_cons_self
      have htext := ih front text path hrest htail fun _ t ht ↦ by
        simpa [Token.isGroup] using hnext t ht
      simpa [matchesOf, Token.chars, writeTokens, separator, hempty] using htext
    | group text =>
      have hname : front ++ (literal ++ (.group text :: ts).flatMap Token.chars) =
          (front ++ literal ++ (Token.group text).chars) ++ ([] ++ ts.flatMap Token.chars) := by
        simp
      have hindex : front.length + literal.length + (text.length + 2) =
          (front ++ literal ++ (Token.group text).chars).length + ([] : List Char).length := by
        simp [Token.chars, Nat.add_assoc]
      have hsliceLiteral :=
        slice_append_append front literal ((.group text :: ts).flatMap Token.chars)
      have hsliceGroup := slice_group (front ++ literal) text (ts.flatMap Token.chars)
      rw [List.length_append, List.append_assoc, ← List.flatMap_cons] at hsliceGroup
      dsimp only
      rw [matchesOf, List.foldl_cons, pushMatch]
      dsimp only
      rw [hsliceLiteral, hsliceGroup, hindex, hname]
      refine (ih _ [] _ hrest htail fun h ↦ absurd rfl h).trans ?_
      have hlast : 0 < (front ++ literal ++ (Token.group text).chars).length := by
        simp only [List.length_append, Token.chars, List.length_cons]
        omega
      rw [List.isEmpty_nil, Bool.true_and, if_pos (decide_eq_true hlast)]
      cases literal.isEmpty && decide (0 < front.length) <;> simp [separator, writeTokens]

/-- **The path of a name.** The loop over the groups of a name makes its path, and none if there is
no group. -/
theorem dynamicPath?_eq_pathByMatches? (name : String) :
    dynamicPath? name = (pathByMatches? name.toList).map String.ofList := by
  have hcut := isCut_tokens name.toList
  have hloop := foldl_pushMatch [] [] ['/'] hcut.literal_ne_nil hcut.isChain (fun h ↦ absurd rfl h)
  simp only [List.nil_append, List.length_nil, hcut.flatMap_chars, List.isEmpty_nil, Nat.lt_irrefl,
    Nat.add_zero, decide_false, Bool.and_false, Bool.false_eq_true, if_false] at hloop
  rw [dynamicPath?_eq_writeTokens, pathByMatches?, matchesFrom_eq_matchesOf, isEmpty_matchesOf]
  cases (tokens name.toList).any Token.isGroup with
  | false => rfl
  | true => simp [hloop]

end PageRoutes.Segment
