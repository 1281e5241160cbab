import CInspect.Text.Packed
/-!
The headers for wide and multibyte characters.

Each entry is the full path of a header and its text, reduced to the
declarations and macros that programs can see.
-/

namespace CInspect.Includes

/-- The headers for wide and multibyte characters. -/
def wideCharacterHeaders : List (String × String) := Text.unpackEntries <|
  String.join [
    "/usr/include/uchar.h`~6!!#ifndef _UCHAR_H`#define~)!4\t1``#~'!s <features.h>`~*!O_need_size_t~+!Qstddef~&!O~)!8bits/typ~&!k~4!;/mbstate_t~%!b~%%w __GLIBC_USE (I",
    "SOC2X) && !~&%Td __cpp_char8~%%U~%!WNUC_PREREQ (10, 0~%!X~,!Wlusplus``# pragma GCC diagnostic push~9!Aignored \"-Wc++20-compat\"`#endif``typedef unsigned char ~",
    "'%y;~S%z~9%yop~(%D~(%K~))Z_USE_ISOCXX11~*%f__uint_least16_t~%%i16_t;~5!G32~'!G32~%&5~'%5`__BEGIN_DECLS~=)-|| ~6),``extern ~&*q mbrtoc8  (~'!F *__restrict __pc8,",
    "`\t\t\tcons~&%g~/!Es,~(!r__n~%!O~)+*~0!r) __THROW;~1%Wc8rtomb~'%W~2%2~(%p__~'%c~9%4s~+%5~)'d~5&t16~&%=~%(h~0&u16~|&v~.&v16~&&w~;&v~%%r__~(%e~F&x`~8&s32~&%:~%+9~",
    "0&s32~|&s~.&s32~B&s~%%r__~(%e~G&s__END~(-L~'*&\x00~-5.w~G5.W~05.~'!4 1~,4o~&.RINTERNAL_STARTING_HEADER_IMPLEMENTATION~04dlibc-header-star~'4f~/!Jfloatn~<6;~.!9~",
    "%&]~2!:NULL~76j~.!M__va_lis~/7Aarg~47A~''y~77Awint~&7=~C7c~5!F__FILE~'%If~+2[USE_UNIX98~.2vUSE_XOPEN2K`# ~4!z~(!x~(5Nif~*5E~'!a8~7!blocal~(&*~(16~.%k~)6y &&~07R",
    "4, 4)`# ~)(DCORRECT_ISO_CPP~(+:_PROTO~17?~&!BMIN`~*!k~)!7 __~*!D~0!CAX~*!CAX~2%(EOF~+!XEOF (0xf~'!!u)~+4&~(-T (~3(G~/<fUSE_GNU \\`    ~%!A~4!Z2K~3!]~'!=XSI))~1(",
    "dwctype-~*+S~'%r~19Zstruct tm;~+3C~'-P *wcscpy (~)!4~-16dest~+3B~6!Isrc)~&&Z~'1e __nonnull ((1, 2));~6%Kn~E%L ~?%M~,4s~Y%Ycat~|'+~-%K~5'*~D%K~|'* int wcscmp (~1",
    "%2s1,~2%Hs2~1%/attribute_pure__~=&z~'%Bn~N%C~=&[~G%O~62q~0'/ase~O'3~3;x~)&a~Q!t~%)m~+&h~->d~5&!_l~P%- ~(5M __loc~,%2~6&9~S%1~,?d~:%>~1E3~(&Uoll~X(S~/AQwcsxfrm~8",
    ".6s1,`\t\t~%*z ~>.9~.+V~+%B~7+*~6&Q~Q't~&%l~:).~8&o_l~-&q~=)*~F))~52Adu~5,]~)![` ~-.xmalloc~%.zattr_de~&!4free;~-=4~&(!~><W~'%c\"C++\"~.5Uhr~-'!wcs,~)!E__w~252a",
    "sm (\"~&!b\")~31,;~.%=~/&r~(%D~1'1~i%J#else~58A~Y%D~3%2~)?M~a(Nr~](Or~Z(Pr~e(Qr~T(Rr~|(Sf~*D%~7>?hrnu~51&~Z%I~31!cspn~8&[~33cject~D%A~3%8~M%7accep~F%7~d,Npbrk~2",
    ",N~J%d~(+0pbrk~W,Y~&%Q~5'?`\t\t~'6U~p%c~9,p~;%Z~](y~l1Sst~.1Rhaystack~3%oneedle~:'Est~X1d~%%T~1%>~)%Z~))/~o%e~9)-~?%]~K%T~:0d~3%Ftok~9AV~BM8delim~%!J~)!D~/aFtr~",
    ";b[wcslen~==|~?0X~)BY``# ~c+kwcs~l+kwcs~W+k~%%T~x+k~:%e# ~8+l~?%_~_+l ~1rP~;O7~**Zn~7*[~+I4maxlen~N:-~b2Umem~0A/~-;j~>U>~'(x~&!l~U*c~(%O~>=Dc~+7f~c%a~72L~I%X~MU",
    "p~22F~%N?mem~|W8~.?1~.&Y~:aX~&Q=\t~XQ8~6%>move~FOg~9&X~8&Eset~I,0~8S6~7F0memp~D'O~M'P~/&N~+j=~(%N~%ov btowc (in~%&A~;Z8tob (~'!Y~<!Nmbsinit~(+<~-vBp~A82~5y?wc~8",
    "'Apwc~1X2~EyC~'!U~UyIwc~=yH~,K8~E%9s~;%:__mbr~+5H~b|x~,%9~1(8~P%5~M&Q~--/EXTERN_INLINES`~3+k__~%+m_alias~-+s~&4G~%!B\");`__~&!__inline~'!g`__NTH (~/,[)`@ return",
    " (__builtin_~%&pant_p (~%%4~%v>c >= '\\0'~(!2<= '\\x7f'`\t  ?~(-4)~%!?:~0&,~%%=; $~--D__~%-s~(!H~.-y~(=Ztob~4&Tin~)&Q~0.dw~G&Uw~(&Vw~%&WL~*&Xw~%&YL~-&Zin~%&Ww~&",
    "&X~-&3~&%B~%&Y~0%y~&*L~(&!~R+)~C-W~.&hps != NULL~&&1~)0]NULL,~&%0~%dP~&+i:~+.'~*!?NULL~&&K^:%1vs~%%'s~9s-~.s,~&&i~<s*le~&/.~I0F~2Bm~%1bs~51cd~7tj~p%d~&/W\t~1jy~",
    "1'dn~H'e~J'fnmc~0o>len,~['un~E'v~C'w~0q*w~5(2 ^P%9]~4NY~-;'width~*(1~>;Us~'!R~=IUn)~<<wdouble ~%RYd~3!q~+&Onptr~*6f~7'fend~/RD~-&rISOC99~)%Nfloa~%&Etof~L%M~I%L~",
    "'%5long~-&hl~H&i\t~M%<~-)h __HAVE_FLOAT16^.%FG~(D*~'%r_Float16~''/16~J%p~Q%n~0%l32~D%l32~'%l32~|%l~2%l64~D%l64~'%l64~|%l~3)K28~E)L28~()M28~|+C~6)PX~F)Qx~))Rx~|%",
    "q~6)U~E%q64~(%q64~|%q~8)ZX~G)[x~*)]~M%t~U1)~-2N~'6/tol~H%F~=%?,~'Ejbase~57K^)%U>~.%Mu~I%N~A.J~-%Q~0Te~56t~'ECnsion__~-'D~/'Il~n(o~=%z~7%f~.'f~0'k~J'l~?)A~&!H~5)",
    "F~;|r~I'oq~M'n~|'m~7'mq~K+Z~D%q~,!N~Q'x~7/'_l~j8!~,'e~'!T^B%:K~9/>_~L/A~J']~+%s~;%n~K/?~K%x~D%t~]%p~?/J~K%z\t~F'v\t~='u~0-g~4Hf_~k6Q~G%K~,Hc~I%J~F.l~H%P~3I%_~p6",
    "/~*!L~:*g# ~1I:~9I%~N%p~G%n~9%l~(x/~2%t32~9I-~|%t~P%t64~9I5~|%t~P%t128~;I=~|+[~V)mX~;IH~|%|~V)tX~;IR~|%|~W)|X~=I]~q8L~B%t^2%L'~6d*~*xrcp^h%cL^>%!9cp^|%c4~5Lu^2%",
    "m'~('' ||^.&!<LIB_EXT2)~%)Y^'&&(^.%P.close`#   ~-%&has~(oV~%!A~%!C~-!:~,o|~&!m)``~'!P^*%lV~3%<~/!9~2!o, 1)~'!p~')y~+!-~(!+~A&K~<%R~*,w~))M^&%q7 *open_wmemstrea^",
    ",%XK*__buflo~*)&*__size~,,-^I%TU~%%W~.TK~.)S~%OV5^2%rW^&%rr~.h2fwide (~(&>__fp~(G;mod~/RD~0!bprintf~,!e~,+p~%',~)>c~<,Dformat, ...~',?~W!!;~0%v~)%u~|%N~0%N~+%Ks",
    "~)%L~7/;^5%&3~O%|~'(s~a'V~,&/v~A)S~*E5~D&!~)!P__gnuc^(&!N __arg~r)kv~M)l~(%k~y%j~,%h~W*.~l(.~i*I~./|scan~G/z~|.L~2%u~,/x~'%r~|%L~/%L~-/v~D%Js~W'C~a)F~')E~%B8!~-",
    ";xDEPRECATED_SCANF^0&BNLDBL_COMPAT^+&(j__LDOUBLE_REDIRECTS_TO~)C8_ABI == 0`# ^)%Nj~(!N^.%1S~(!9 (~'+-,~B+.~??L~,'f~+SE__isoc99_~'%7~b)y~7&?~)&>~_%t~|%sCT^&%3.s~",
    "F%x^=%a<~51k~'!Q~%&R~*&Is~h&J# ^-%R!~&&R~.)O~C*e~I&G~%&=;~5%;~Q18~6!m~K0Z~]<O~%'_~(Eg~('L~0'_~,!H~0!G~2!Fs~0!Gs~*!H~.GU~6js~)rg~0=[~=)A~M?Z~|;l~4=W~K*5~'%h~w%g~",
    ".=S~M7f~k'x~e8'~F8!~*7b(~78,||~,8G~(3&~-!a~*!CSTRICT_ANSI__^9&CS)~|9-~(6iv~A9.~(46~K4d~5)(~+4rv~|99~&&L~M9:~&&,~B&+~|&*~(9Iv~S9J~O9K~C&a~|9a~2)w~=+=~N&W~;&V~69.",
    "~P3g\t~R%/~Q:;~g&i~5:Rv~1:Sv~3:Tv~1!I~3!H~1:Wv~C:X^3%Wffgetwc~,*'~&?X~*'u~'!M~:!L~3%%~%!Qhar (void);~6%Kput^,%b.__wc, ~B%Y~I!Z~3%B~%!b~%%j~,!e~)%r~1iA~%'E^9%OVw",
    "s~(aq~%TI\t~;DV)~2YT~%'%s~>+mw~(;%~D%*~/&jun~')0^+%Z!~7'O^4%/q~7)S_unlocked~I*_har~+!X~-*8~5+d~>%0~;*v~+!_~G*F~6*I~M!n~6+3~7!i~3%G~.+=~3!]~>+G\t~F*B~2+K~+%8~C+T",
    "~'E;~<%7~,1<^1%WWftime~EaDmaxsize~BtY~+4d~&!K^)&ZK~/!Mtp^0%,>^7%sF~/&(^/&IA~D&*~L6m~A&.^A%92~*r+^&%HxUSE_FORTIFY_LEVEL > 0^.%I'fortify_function`^3&aihar2-decl^-",
    "&fL~/qa~/GJ~HFB1~6%>-ldb~-%=~u&L^.&d3^C&p?type^E&pATYPE^.&pB~&!5 ^9')N^N'(y^*&mY`^V&ho#^>&gJ~%!!^1&gG^('%i~&+z__in^&'%h*wctrans_t^.%''~'!8~(!-^0%nLproperty^5&RR",
    "~&3ito~)!c~-84~*%+__desc~:/L^*%*'# ^B&o+~.3?iswalnu^&&U;~,%N~..Tale^7&z0~)!lpha~P!l~.!icntrl~Q%W~.!jdigit~b!jgraph~R'4~.!klower~a'3~%t3~c%Vpunc~d!kspace~c!kupp~",
    "R'5~0!kx~V)Z~/!lblank~X*J~&0s~&/rype^*%6,~0/s~4!x^2%RV~/-)~(!z~002~&%C~&01~G%(~41<~]+j~*!l~V)F~83_~c'j~73z~4'm~-4!~(Bh~=&1~)=G~C9lx86_64-linux-gnu/^,'*I~<:%BITS",
    "^2'.H~,!9\t1~0!a~&6)^)'&L__^,'('~)!:\t~/!Gelif^'&+h- 1 >~%c=~3![~,:. +~&!V)^'&AA~8!U7~'!U~,!T~/mH^)'(u~5&*IN\t~/!G~F&*IN\t(~&!H+ 0~:%xIN\t(-~+&. - 1~+%v~M)Q~,='",
    "~A?a~')F~%?Q~8)f~,!A~&?wf~+ie~)A9^-%&G~)!serror \"Never^>'*P directly;~*!L~(C(> or <~)!Ninstead.\"~+)D~YBJ`^3'E4^+%YX~&2e~'>c~&']ISwbit~&'s~0>_endian~%%J^'%AwBY",
    "TE_ORDER == __BIG_ENDIAN~,],~'%!(bit)\t(1 << ~%!/)~)dx~8!Q\\`\t(~%!- < 8^)&5=((1UL~*!m << 24)~)ak\\`\t : ~)!]16~<!_8~.!]  ~,!b24~9!b>>~3!b~&!e~8!T24))~'&s~&)Xen",
    "um`@`  __IS~&5j = 0,~(!5~%6m = 1~)!5~%C& = 2~)!5~%;% = 3~)!5x~(!64~)!6~%=+ = 5~)!5~%>u = 6~)!5~%Ae = 7~)!5~%;< = 8~)!5~%Cg = 9~*!ounct = 1~*&1~%Ek = 11,``  ~,&W",
    "~')] (~*&p),~'!H~(&l~.!H~%!9~)!H~('&~.!H~%!9~)!H~('%~.!H~%!9~)!Hx~6!Ix~.!J~('a~.!I~%!9~)!H~('s~.!H~%!9~)!H~((-~.!H~%!9~)!H~((?~.!H~%!9~)!H~((R~.!H~%!9~*%c~'(g~/",
    "%cunc~*%c~((x~0'qnum)`$~,U1~1NB~7Ka~-<0~DKI~:!T~3K3~;%,~3Jv~J!R~&(m~;&4~3JI~I&3~&*B~J%+~&)4~J!S~&+s~J!S~&.Y~J!Sx~A'r~/RQ^'%.k~3I3~8!k~*+7`~:I*~FTx~4Hh~>Hf)~GHK~",
    "B)l~/H5~9!T~4Ea"]

end CInspect.Includes
