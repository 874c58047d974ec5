import WebDispatch.Text.Split

/-!
# Media types of files

The media type of a file is guessed from the extension of its name: what follows the last point,
in any case. A name that begins with its only point has no extension.
-/

namespace WebDispatch.Http

/-- Media types, each with the extensions of its files. -/
def fileTypes : List (String × List String) :=
  [("application/atom+xml", ["atom"]),
   ("application/directx", ["x"]),
   ("application/epub+zip", ["epub"]),
   ("application/gzip", ["gz"]),
   ("application/java-archive", ["jar"]),
   ("application/json", ["json"]),
   ("application/ld+json", ["jsonld"]),
   ("application/manifest+json", ["webmanifest"]),
   ("application/msword", ["doc", "dot"]),
   ("application/ogg", ["ogx"]),
   ("application/pdf", ["pdf"]),
   ("application/pgp-signature", ["asc", "sig"]),
   ("application/pkix-cert", ["cer"]),
   ("application/postscript", ["ai", "eps", "ps"]),
   ("application/rdf+xml", ["rdf"]),
   ("application/rss+xml", ["rss"]),
   ("application/rtf", ["rtf"]),
   ("application/vnd.android.package-archive", ["apk"]),
   ("application/vnd.ms-cab-compressed", ["cab"]),
   ("application/vnd.ms-excel", ["xls", "xla", "xlt"]),
   ("application/vnd.ms-fontobject", ["eot"]),
   ("application/vnd.ms-powerpoint", ["ppt", "pot", "pps"]),
   ("application/vnd.oasis.opendocument.presentation", ["odp"]),
   ("application/vnd.oasis.opendocument.spreadsheet", ["ods"]),
   ("application/vnd.oasis.opendocument.text", ["odt"]),
   ("application/vnd.openxmlformats-officedocument.presentationml.presentation", ["pptx"]),
   ("application/vnd.openxmlformats-officedocument.spreadsheetml.sheet", ["xlsx"]),
   ("application/vnd.openxmlformats-officedocument.wordprocessingml.document", ["docx"]),
   ("application/wasm", ["wasm"]),
   ("application/x-7z-compressed", ["7z"]),
   ("application/x-bittorrent", ["torrent"]),
   ("application/x-bzip", ["bz"]),
   ("application/x-bzip2", ["bz2"]),
   ("application/x-csh", ["csh"]),
   ("application/x-debian-package", ["deb"]),
   ("application/x-dvi", ["dvi"]),
   ("application/x-httpd-php", ["php"]),
   ("application/x-latex", ["latex"]),
   ("application/x-perl", ["pl"]),
   ("application/x-rar-compressed", ["rar"]),
   ("application/x-sh", ["sh"]),
   ("application/x-shockwave-flash", ["swf"]),
   ("application/x-sql", ["sql"]),
   ("application/x-tar", ["tar"]),
   ("application/x-tcl", ["tcl"]),
   ("application/x-tex", ["tex"]),
   ("application/x-x509-ca-cert", ["crt", "der", "pem"]),
   ("application/x-xz", ["xz"]),
   ("application/xhtml+xml", ["xhtml", "xht"]),
   ("application/zip", ["zip"]),
   ("audio/aac", ["aac", "adts"]),
   ("audio/aiff", ["aiff", "aif"]),
   ("audio/basic", ["au", "snd"]),
   ("audio/flac", ["flac"]),
   ("audio/m4a", ["m4a"]),
   ("audio/mid", ["mid", "midi", "rmi"]),
   ("audio/mpeg", ["mp3", "mp2", "mpga"]),
   ("audio/ogg", ["ogg", "oga", "opus", "spx"]),
   ("audio/wav", ["wav", "wave"]),
   ("audio/weba", ["weba"]),
   ("font/otf", ["otf"]),
   ("font/ttf", ["ttf"]),
   ("font/woff", ["woff"]),
   ("font/woff2", ["woff2"]),
   ("image/apng", ["apng"]),
   ("image/avif", ["avif"]),
   ("image/bmp", ["bmp", "dib"]),
   ("image/gif", ["gif"]),
   ("image/heic", ["heic"]),
   ("image/jpeg", ["jpg", "jpeg", "jpe"]),
   ("image/jxl", ["jxl"]),
   ("image/png", ["png"]),
   ("image/svg+xml", ["svg", "svgz"]),
   ("image/tiff", ["tif", "tiff"]),
   ("image/vnd.adobe.photoshop", ["psd"]),
   ("image/webp", ["webp"]),
   ("image/x-icon", ["ico"]),
   ("image/x-portable-bitmap", ["pbm"]),
   ("image/x-portable-graymap", ["pgm"]),
   ("image/x-portable-pixmap", ["ppm"]),
   ("message/rfc822", ["eml", "mht", "mhtml"]),
   ("text/calendar", ["ics"]),
   ("text/css", ["css"]),
   ("text/csv", ["csv"]),
   ("text/html", ["html", "htm"]),
   ("text/javascript", ["js", "mjs", "jsm"]),
   ("text/jsx", ["jsx"]),
   ("text/markdown", ["md", "markdown"]),
   ("text/plain",
    ["txt", "text", "log", "conf", "def", "in", "list", "c", "h", "cc", "cpp", "cs", "py", "asm",
     "bas", "cxx", "hpp", "hxx", "inc", "java", "rc", "vb"]),
   ("text/tab-separated-values", ["tsv"]),
   ("text/troff", ["man", "me", "ms", "roff", "tr"]),
   ("text/vtt", ["vtt"]),
   ("text/x-less", ["less"]),
   ("text/x-rust", ["rs"]),
   ("text/x-sass", ["sass"]),
   ("text/x-scss", ["scss"]),
   ("text/x-toml", ["toml"]),
   ("text/x-vcard", ["vcf"]),
   ("text/x-yaml", ["yaml", "yml"]),
   ("text/xml", ["xml", "xsl", "xsd", "xslt", "dtd", "wsdl"]),
   ("video/3gpp", ["3gp", "3gpp"]),
   ("video/mp4", ["mp4", "mp4v", "mpg4", "m4v"]),
   ("video/mpeg", ["mpeg", "mpg", "mpe", "m1v", "m2v"]),
   ("video/ogg", ["ogv"]),
   ("video/quicktime", ["mov", "qt"]),
   ("video/vnd.dlna.mpeg-tts", ["ts", "tts"]),
   ("video/webm", ["webm"]),
   ("video/x-flv", ["flv"]),
   ("video/x-matroska", ["mkv", "mk3d", "mks"]),
   ("video/x-ms-wmv", ["wmv"]),
   ("video/x-msvideo", ["avi"])]

/-- The extension of a file name: what follows the last point, unless the name begins there. -/
def extension? (name : String) : Option String :=
  let back := name.toList.reverse
  match back.dropWhile (· ≠ '.') with
  | [] => none
  | [_] => none
  | _ :: _ => some (String.ofList (back.takeWhile (· ≠ '.')).reverse)

def fileType (name : String) : String :=
  match extension? name with
  | none => "application/octet-stream"
  | some e =>
    match fileTypes.find? (fun t => t.2.contains (Text.asciiLower e)) with
    | some t => t.1
    | none => "application/octet-stream"

end WebDispatch.Http
