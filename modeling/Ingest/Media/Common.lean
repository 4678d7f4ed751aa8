import Ingest.Media
/-!
# Common media types

Media types guessed by the extension of a name, without regard to the case of its letters.  Only
common extensions are known.
-/

namespace Ingest.Media

def commonTypes : List (String × String) := [
  ("txt", "text/plain"), ("pdf", "application/pdf"), ("jpg", "image/jpeg"),
  ("jpeg", "image/jpeg"), ("png", "image/png"), ("gif", "image/gif"), ("tif", "image/tiff"),
  ("tiff", "image/tiff"), ("xml", "text/xml"), ("html", "text/html"), ("htm", "text/html"),
  ("json", "application/json"), ("csv", "text/csv"), ("zip", "application/zip"),
  ("mp3", "audio/mpeg"), ("mp4", "video/mp4"), ("wav", "audio/wav"), ("avi", "video/x-msvideo"),
  ("doc", "application/msword"),
  ("docx", "application/vnd.openxmlformats-officedocument.wordprocessingml.document"),
  ("xls", "application/vnd.ms-excel"),
  ("xlsx", "application/vnd.openxmlformats-officedocument.spreadsheetml.sheet"),
  ("ppt", "application/vnd.ms-powerpoint"), ("rtf", "application/rtf"),
  ("svg", "image/svg+xml"), ("bmp", "image/bmp"), ("md", "text/markdown"),
  ("js", "text/javascript"), ("css", "text/css"), ("epub", "application/epub+zip"),
  ("jp2", "image/jp2"), ("ogg", "audio/ogg"), ("webm", "video/webm"), ("gz", "application/gzip"),
  ("tar", "application/x-tar"), ("7z", "application/x-7z-compressed")]

instance commonGuess : Guess where
  typeOf? p := p.extension?.bind fun e =>
    commonTypes.lookup (String.ofList (e.toList.map Char.toLower))

end Ingest.Media
