import AssessmentItem.Json.Decode
import AssessmentItem.Response.Binding

/-!
# Written submissions

## Main definitions

* `FileInfo.ofJson?`, `ResponseData.ofJson?` : what is submitted for a variable.
* `Submission.ofJson?` : a submission.
-/

namespace AssessmentItem

open Json

/-- What is known of a file, with `file_name`, `content_type` and `size`. -/
def FileInfo.ofJson? (v : Json) : Option FileInfo := do
  let fields ← v.asFields? ["file_name", "content_type", "size"]
  some ⟨← required? fields "file_name" asText?, ← required? fields "content_type" asText?,
    ← required? fields "size" asNatural?⟩

/-- What is submitted for a variable: a list of texts or a file, by the form of `v`. -/
def ResponseData.ofJson? (v : Json) : Option ResponseData :=
  ((asList? asText? v).map texts).or ((FileInfo.ofJson? v).map file)

/-- A submission: an object with `ResponseData` under each identifier. -/
def Submission.ofJson? (v : Json) : Option Submission := asMap? ResponseData.ofJson? v

end AssessmentItem
