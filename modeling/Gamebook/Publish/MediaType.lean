import Gamebook.Text.Case

/-!
Media types of files by the endings of their names.

An ending is what stands behind the last full stop, unless nothing but full stops stands in front of
it. Endings of packed files are told apart first, so that the type is that of the file inside. What
stands in front of a colon is a scheme; behind the scheme of data, a text is told by its comma.
-/

namespace Gamebook.Publish.MediaType

open Gamebook.Text

def known : List (String × String) := [
  (".3g2", "audio/3gpp2"),
  (".3gp", "audio/3gpp"),
  (".3gpp", "audio/3gpp"),
  (".3gpp2", "audio/3gpp2"),
  (".a", "application/octet-stream"),
  (".aac", "audio/aac"),
  (".adts", "audio/aac"),
  (".ai", "application/postscript"),
  (".aif", "audio/x-aiff"),
  (".aifc", "audio/x-aiff"),
  (".aiff", "audio/x-aiff"),
  (".ass", "audio/aac"),
  (".au", "audio/basic"),
  (".avi", "video/x-msvideo"),
  (".avif", "image/avif"),
  (".bat", "text/plain"),
  (".bcpio", "application/x-bcpio"),
  (".bin", "application/octet-stream"),
  (".bmp", "image/bmp"),
  (".c", "text/plain"),
  (".cdf", "application/x-netcdf"),
  (".cpio", "application/x-cpio"),
  (".csh", "application/x-csh"),
  (".css", "text/css"),
  (".csv", "text/csv"),
  (".dll", "application/octet-stream"),
  (".doc", "application/msword"),
  (".dot", "application/msword"),
  (".dvi", "application/x-dvi"),
  (".eml", "message/rfc822"),
  (".eps", "application/postscript"),
  (".etx", "text/x-setext"),
  (".exe", "application/octet-stream"),
  (".gif", "image/gif"),
  (".gtar", "application/x-gtar"),
  (".h", "text/plain"),
  (".h5", "application/x-hdf5"),
  (".hdf", "application/x-hdf"),
  (".heic", "image/heic"),
  (".heif", "image/heif"),
  (".htm", "text/html"),
  (".html", "text/html"),
  (".ico", "image/vnd.microsoft.icon"),
  (".ief", "image/ief"),
  (".jpe", "image/jpeg"),
  (".jpeg", "image/jpeg"),
  (".jpg", "image/jpeg"),
  (".js", "application/javascript"),
  (".json", "application/json"),
  (".ksh", "text/plain"),
  (".latex", "application/x-latex"),
  (".loas", "audio/aac"),
  (".m1v", "video/mpeg"),
  (".m3u", "application/vnd.apple.mpegurl"),
  (".m3u8", "application/vnd.apple.mpegurl"),
  (".man", "application/x-troff-man"),
  (".markdown", "text/markdown"),
  (".md", "text/markdown"),
  (".me", "application/x-troff-me"),
  (".mht", "message/rfc822"),
  (".mhtml", "message/rfc822"),
  (".mif", "application/x-mif"),
  (".mjs", "application/javascript"),
  (".mov", "video/quicktime"),
  (".movie", "video/x-sgi-movie"),
  (".mp2", "audio/mpeg"),
  (".mp3", "audio/mpeg"),
  (".mp4", "video/mp4"),
  (".mpa", "video/mpeg"),
  (".mpe", "video/mpeg"),
  (".mpeg", "video/mpeg"),
  (".mpg", "video/mpeg"),
  (".ms", "application/x-troff-ms"),
  (".n3", "text/n3"),
  (".nc", "application/x-netcdf"),
  (".nq", "application/n-quads"),
  (".nt", "application/n-triples"),
  (".nws", "message/rfc822"),
  (".o", "application/octet-stream"),
  (".obj", "application/octet-stream"),
  (".oda", "application/oda"),
  (".opus", "audio/opus"),
  (".p12", "application/x-pkcs12"),
  (".p7c", "application/pkcs7-mime"),
  (".pbm", "image/x-portable-bitmap"),
  (".pdf", "application/pdf"),
  (".pfx", "application/x-pkcs12"),
  (".pgm", "image/x-portable-graymap"),
  (".pl", "text/plain"),
  (".png", "image/png"),
  (".pnm", "image/x-portable-anymap"),
  (".pot", "application/vnd.ms-powerpoint"),
  (".ppa", "application/vnd.ms-powerpoint"),
  (".ppm", "image/x-portable-pixmap"),
  (".pps", "application/vnd.ms-powerpoint"),
  (".ppt", "application/vnd.ms-powerpoint"),
  (".ps", "application/postscript"),
  (".pwz", "application/vnd.ms-powerpoint"),
  (".py", "text/x-python"),
  (".pyc", "application/x-python-code"),
  (".pyo", "application/x-python-code"),
  (".qt", "video/quicktime"),
  (".ra", "audio/x-pn-realaudio"),
  (".ram", "application/x-pn-realaudio"),
  (".ras", "image/x-cmu-raster"),
  (".rdf", "application/xml"),
  (".rgb", "image/x-rgb"),
  (".roff", "application/x-troff"),
  (".rtx", "text/richtext"),
  (".sgm", "text/x-sgml"),
  (".sgml", "text/x-sgml"),
  (".sh", "application/x-sh"),
  (".shar", "application/x-shar"),
  (".snd", "audio/basic"),
  (".so", "application/octet-stream"),
  (".src", "application/x-wais-source"),
  (".srt", "text/plain"),
  (".sv4cpio", "application/x-sv4cpio"),
  (".sv4crc", "application/x-sv4crc"),
  (".svg", "image/svg+xml"),
  (".swf", "application/x-shockwave-flash"),
  (".t", "application/x-troff"),
  (".tar", "application/x-tar"),
  (".tcl", "application/x-tcl"),
  (".tex", "application/x-tex"),
  (".texi", "application/x-texinfo"),
  (".texinfo", "application/x-texinfo"),
  (".tif", "image/tiff"),
  (".tiff", "image/tiff"),
  (".tr", "application/x-troff"),
  (".trig", "application/trig"),
  (".tsv", "text/tab-separated-values"),
  (".txt", "text/plain"),
  (".ustar", "application/x-ustar"),
  (".vcf", "text/x-vcard"),
  (".vtt", "text/vtt"),
  (".wasm", "application/wasm"),
  (".wav", "audio/x-wav"),
  (".webm", "video/webm"),
  (".webmanifest", "application/manifest+json"),
  (".wiz", "application/msword"),
  (".wsdl", "application/xml"),
  (".xbm", "image/x-xbitmap"),
  (".xlb", "application/vnd.ms-excel"),
  (".xls", "application/vnd.ms-excel"),
  (".xml", "text/xml"),
  (".xpdl", "application/xml"),
  (".xpm", "image/x-xpixmap"),
  (".xsl", "application/xml"),
  (".xwd", "image/x-xwindowdump"),
  (".zip", "application/zip")]

def expansions : List (String × String) := [
  (".svgz", ".svg.gz"),
  (".tgz", ".tar.gz"),
  (".taz", ".tar.gz"),
  (".tz", ".tar.gz"),
  (".tbz2", ".tar.bz2"),
  (".txz", ".tar.xz")]

/-- Endings of files that are packed; upper and lower case differ here. -/
def packings : List String := [".gz", ".Z", ".bz2", ".xz", ".br"]

def splitEnding (name : Text) : Text × Text :=
  let ending := (name.reverse.takeWhile (· ≠ '.')).reverse
  let stem := (name.reverse.dropWhile (· ≠ '.')).drop 1
  if stem.all (· = '.') then (name, []) else (stem.reverse, '.' :: ending)

def lookUp (table : List (String × String)) (ending : Text) : Option Text :=
  (table.lookup ending.str).map String.toList

/-- The name with its ending written out if it stands for two. -/
def expand (name : Text) : Text :=
  let (stem, ending) := splitEnding name
  match lookUp expansions (lower ending) with
  | some long => stem ++ long
  | none => name

/-- The name without the ending of a packed file. -/
def unpacked (name : Text) : Text :=
  let (stem, ending) := splitEnding name
  if packings.contains ending.str then stem else name

/-- The scheme that a name starts with, in lower case, and what stands behind it. -/
def scheme? (name : Text) : Option (Text × Text) :=
  match cutAt ':' name with
  | some ([], _) | none => none
  | some (scheme, rest) => some (lower scheme, rest)

/-- The type by the ending of a name without a scheme. -/
def ofEnding (name : Text) : Option Text :=
  lookUp known (lower (splitEnding (unpacked (expand name))).2)

/-- The type of a file by its name, if it is known. -/
def ofName? (name : Text) : Option Text :=
  match scheme? name with
  | none => ofEnding name
  | some (scheme, rest) =>
    if scheme = "data".toList then
      if rest.contains ',' then some "text/plain" else none
    else ofEnding rest

/-- The type of a file that nothing is known of. -/
def unknown : Text := "application/octet-stream"

def ofName (name : Text) : Text := (ofName? name).getD unknown

end Gamebook.Publish.MediaType
