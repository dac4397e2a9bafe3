import ApiReview.Proofs.Checks.Runs
import ApiReview.Proofs.Checks.TypeNames
import ApiReview.Proofs.FirstClaims

/-!
# Names with one normalized form

The check of names goes through the names in their order and keeps, for each normalized
form in lower case, the first name that has it.  So a name is reported when an earlier one
has the same form, and the report tells of the first of these, however many follow.
-/

namespace ApiReview

/-- What a name claims: its normalized form in lower case, unless that is empty. -/
def nameKey? (name : String) : Option String :=
  if normalizeName name = "" then none else some (Text.lower (normalizeName name))

/-- The normalized forms of two names differ at most in case. -/
def SameTypeName (one two : String) : Prop :=
  Text.lower (normalizeName one) = Text.lower (normalizeName two)

/-- The finding that the normalized form of a name is the one of an earlier name. -/
def nameCollision (name first : String) : Finding :=
  Finding.about
    (.of .normalizedNameCollision
      ("Schema name '" ++ name ++ "' normalizes to '" ++ normalizeName name ++
        "', already used by '" ++ first ++ "'") (Pointer.schema name))
    name (Pointer.schema name) "schema"

/-- What has to be said about collisions of the name at a place of a list. -/
inductive CollisionReport (names : List String) (place : Nat) : List Finding → Prop
  | nameless {name : String} (here : names[place]? = some name)
      (empty : normalizeName name = "") : CollisionReport names place []
  | unclaimed {name : String} (here : names[place]? = some name)
      (filled : normalizeName name ≠ "")
      (others : ∀ earlier < place, ∀ other, names[earlier]? = some other →
        ¬SameTypeName other name) :
      CollisionReport names place []
  | collides {name first : String} {start : Nat} (here : names[place]? = some name)
      (filled : normalizeName name ≠ "")
      (before : start < place) (there : names[start]? = some first)
      (same : SameTypeName first name)
      (others : ∀ earlier < start, ∀ other, names[earlier]? = some other →
        ¬SameTypeName other name) :
      CollisionReport names place [nameCollision name first]

variable {names earlier later : List String} {name key : String} {claimed : Table String}

section Keys

theorem nameKey?_of_empty (empty : normalizeName name = "") : nameKey? name = none :=
  if_pos empty

theorem nameKey?_of_filled (filled : normalizeName name ≠ "") :
    nameKey? name = some (Text.lower (normalizeName name)) :=
  if_neg filled

theorem typeKeys_eq (names : List String) : typeKeys names = names.filterMap nameKey? := by
  induction names with
  | nil => rfl
  | cons name rest ih =>
      unfold typeKeys at ih ⊢
      by_cases empty : normalizeName name = ""
      · simp [empty, nameKey?_of_empty empty, ih]
      · simp [empty, nameKey?_of_filled empty, ih]

/-- A name with the normalized form of a name that has one claims this form, too. -/
theorem nameKey?_eq_some_iff {other : String} (filled : normalizeName name ≠ "") :
    nameKey? other = some (Text.lower (normalizeName name)) ↔ SameTypeName other name := by
  unfold nameKey? SameTypeName
  split_ifs with empty
  · rw [empty]
    refine iff_of_false nofun fun same => filled ?_
    rw [Text.lower_eq_empty_iff.mpr rfl] at same
    exact Text.lower_eq_empty_iff.mp same.symm
  · exact Option.some_inj

end Keys

namespace Checks

variable {policy : Policy}

/-- The findings about a name, given the names before it. -/
def nameFindingsAfter (policy : Policy) (earlier : List String) (name : String) : List Finding :=
  nameFindings policy name ((nameKey? name).bind (claimant? nameKey? earlier))

/-- The table tells of each key which name was the first to claim it.  A step keeps this: a
name without a key, or with one that is claimed, leaves the table as it is, and any other
name is entered. -/
theorem inTurn_append_namesFindings
    (tracks : ∀ key, claimed.get? key = claimant? nameKey? earlier key) :
    inTurn (nameFindingsAfter policy) earlier ++ namesFindings policy later claimed =
      inTurn (nameFindingsAfter policy) (earlier ++ later) := by
  induction later generalizing earlier claimed with
  | nil => rw [namesFindings, List.append_nil, List.append_nil]
  | cons name rest ih =>
      rw [List.append_cons]
      by_cases empty : normalizeName name = ""
      · have idle : ∀ key, claimant? nameKey? (earlier ++ [name]) key =
            claimant? nameKey? earlier key :=
          claimant?_concat_of_idle fun key claims => by
            rw [nameKey?_of_empty empty] at claims
            cases claims
        have found : nameFindingsAfter policy earlier name = nameFindings policy name none := by
          rw [nameFindingsAfter, nameKey?_of_empty empty, Option.bind_none]
        rw [← ih fun key => (tracks key).trans (idle key).symm, inTurn_concat, List.append_assoc,
          found]
        simp [namesFindings, empty]
      · have claims := nameKey?_of_filled empty
        have found : nameFindingsAfter policy earlier name =
            nameFindings policy name (claimed.get? (Text.lower (normalizeName name))) := by
          rw [nameFindingsAfter, claims, Option.bind_some, tracks]
        cases owner : claimed.get? (Text.lower (normalizeName name)) with
        | some first =>
            have idle : ∀ key, claimant? nameKey? (earlier ++ [name]) key =
                claimant? nameKey? earlier key :=
              claimant?_concat_of_idle fun key again => by
                rw [← Option.some.inj (claims.symm.trans again), ← tracks, owner]
                exact Option.some_ne_none first
            rw [← ih fun key => (tracks key).trans (idle key).symm, inTurn_concat,
              List.append_assoc, found, owner]
            simp [namesFindings, empty, owner]
        | none =>
            have fresh := (tracks _).symm.trans owner
            have next : ∀ key, (claimed.put (Text.lower (normalizeName name)) name).get? key =
                claimant? nameKey? (earlier ++ [name]) key := by
              intro key
              rw [claimant?_concat_of_fresh claims fresh]
              by_cases same : key = Text.lower (normalizeName name)
              · rw [if_pos same, same, Table.get?_put_self]
              · rw [if_neg same, Table.get?_put_of_ne same, tracks]
            rw [← ih next, inTurn_concat, List.append_assoc, found, owner]
            simp [namesFindings, empty, owner]

/-- What is found about a name depends on it and on the names before it. -/
theorem added_naming (d : Document) (s : Session) :
    naming.added d s = inTurn (nameFindingsAfter s.policy) d.schemas.names := by
  have tracks : ∀ key, Table.get? ([] : Table String) key = claimant? nameKey? [] key :=
    fun _ => rfl
  have all : namesFindings s.policy d.schemas.names [] =
      inTurn (nameFindingsAfter s.policy) d.schemas.names :=
    inTurn_append_namesFindings tracks
  rw [Check.addsOnly_naming.added, all]

theorem filter_nameFindings (owner : Option String) :
    (nameFindings policy name owner).filter (·.rule == .normalizedNameCollision) =
      (owner.map (nameCollision name)).toList := by
  unfold nameFindings
  dsimp only
  rw [filter_rule_map_about, List.filter_append, List.filter_append]
  have invalid : ∀ message location, (if isIdentifier name then [] else
      [Finding.of .invalidSchemaName message location]).filter
        (·.rule == .normalizedNameCollision) = [] := by
    intro message location
    split_ifs <;> rfl
  have reserved : ∀ message location, (if isReserved policy.extraReservedWords name then
      [Finding.of .reservedKeywordName message location] else []).filter
        (·.rule == .normalizedNameCollision) = [] := by
    intro message location
    split_ifs <;> rfl
  rw [invalid, reserved]
  cases owner <;> rfl

/-- What is found about collisions of a name, given the names before it. -/
def collisionsAfter (earlier : List String) (name : String) : List Finding :=
  (((nameKey? name).bind (claimant? nameKey? earlier)).map (nameCollision name)).toList

theorem filter_added_naming (d : Document) (s : Session) :
    (naming.added d s).filter (·.rule == .normalizedNameCollision) =
      inTurn collisionsAfter d.schemas.names := by
  rw [added_naming, filter_inTurn]
  simp only [nameFindingsAfter, filter_nameFindings]
  rfl

theorem collisionReport_collisionsAfter {place : Nat} (here : names[place]? = some name) :
    CollisionReport names place (collisionsAfter (names.take place) name) := by
  rw [collisionsAfter]
  by_cases empty : normalizeName name = ""
  · rw [nameKey?_of_empty empty]
    exact .nameless here empty
  · rw [nameKey?_of_filled empty, Option.bind_some]
    cases claimant : claimant? nameKey? (names.take place) (Text.lower (normalizeName name)) with
    | none =>
        refine .unclaimed here empty fun earlier before other there => ?_
        rw [← nameKey?_eq_some_iff empty]
        exact claimant?_take_eq_none_iff.mp claimant earlier before other there
    | some first =>
        obtain ⟨start, before, there, claims, others⟩ := claimant?_take_eq_some_iff.mp claimant
        refine .collides here empty before there ((nameKey?_eq_some_iff empty).mp claims) ?_
        intro earlier less other found
        rw [← nameKey?_eq_some_iff empty]
        exact others earlier less other found

/-- The check of names reports of each name in turn that an earlier one was the first with
its normalized form, ignoring case.  The names that are reported, and the forms told apart
ignoring case, are together as many as the names whose normalized form is not empty. -/
theorem collisions_reported (d : Document) (s : Session) :
    ∃ reports : List (List Finding),
      (naming.added d s).filter (·.rule == .normalizedNameCollision) = reports.flatten ∧
      List.Forall₂ (CollisionReport d.schemas.names) (List.range d.schemas.names.length) reports ∧
      ((naming.added d s).filter (·.rule == .normalizedNameCollision)).length +
          (typeKeys d.schemas.names).toFinset.card =
        (typeKeys d.schemas.names).length := by
  have told : ∀ place name, d.schemas.names[place]? = some name →
      CollisionReport d.schemas.names place
        (collisionsAfter (d.schemas.names.take place) name) :=
    fun _ _ here => collisionReport_collisionsAfter here
  obtain ⟨reports, listed, each⟩ := exists_reports_inTurn told
  rw [filter_added_naming]
  refine ⟨reports, listed, each, ?_⟩
  rw [typeKeys_eq]
  refine length_inTurn_add_card fun earlier name => ?_
  rw [collisionsAfter]
  cases (nameKey? name).bind (claimant? nameKey? earlier) <;> rfl

example :
    ((naming.added
        { components := some { schemas := [("UserProfile", {}), ("__", {}), ("user_profile", {}),
            ("_", {}), ("user-PROFILE", {})] } }
        {}).filter (·.rule == .normalizedNameCollision)) =
      [nameCollision "user_profile" "UserProfile",
       nameCollision "user-PROFILE" "UserProfile"] := by
  decide +kernel

end Checks

end ApiReview
