import ApiReview.Review.Session

/-!
# The outline of a document

The title and the version have to be given, servers should be, each of them with
a URL, and a document without paths describes nothing.
-/

namespace ApiReview.Checks

def serverFindings (index : Nat) (server : Server) : List Finding :=
  if Text.isMissing server.url then
    [.of .emptyServerUrl ("Server " ++ toString index ++ " has no url")
      ("#/servers/" ++ toString index ++ "/url")]
  else
    []

/-- The findings about the outline of a document. -/
def structureFindings (d : Document) : List Finding :=
  (if Text.isMissing (d.info.bind (·.title)) then
    [.of .missingTitle "API title is required (info.title)" "#/info/title"] else []) ++
  (if Text.isMissing (d.info.bind (·.version)) then
    [.of .missingVersion "API version is required (info.version)" "#/info/version"]
    else []) ++
  (if d.servers.isEmpty then
    [.of .missingServers
      "No servers declared; generated clients will have no default base URL" "#/servers"]
    else []) ++
  (d.servers.zipIdx.flatMap fun (server, index) => serverFindings index server) ++
  (if d.paths.isEmpty then
    [.of .noPaths "The document declares no paths" "#/paths"] else [])

/-- The check of the outline. -/
def structure_ : Check where
  name := "structure"
  run d s := s.pushAll (structureFindings d)

end ApiReview.Checks
