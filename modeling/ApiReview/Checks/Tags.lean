import ApiReview.Review.Session

/-!
# Tags of operations

Every operation should have a tag, and its tags should be declared for the whole
document.
-/

namespace ApiReview.Checks

def tagFindings (d : Document) (site : OperationSite) : List Finding :=
  let location := site.pointer ++ "/tags"
  if site.operation.tags.isEmpty then
    [.of .missingTags (site.label ++ " has no tags") location]
  else
    (site.operation.tags.zipIdx.filter fun (tag, _) =>
      !d.tags.any (·.name == tag)).map fun (tag, index) =>
        .of .undeclaredTag
          (site.label ++ " uses tag '" ++ tag ++
            "', which is not declared in the top-level tags")
          (location ++ "/" ++ toString index)

def tags : Check where
  name := "tags"
  run d s := s.pushAll (d.operations.flatMap (tagFindings d))

end ApiReview.Checks
